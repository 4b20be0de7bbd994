import Runbook.Proofs.DaemonFiles

/-!
How far the file of the daemon's process is trusted. The text in it is taken for the number of a
process only if it spells one and there is such a process; any other text is removed with the file.
Main statement: unless the file spells the number zero, which stands for the asking process's own
group, the daemon is found exactly if the file spells the number of a process, it is stopped by
signals to that process alone, and a stop that succeeds leaves no record of it.
-/

namespace Runbook

open Program

/-! ## Numbers of processes -/

namespace Daemon

/-- Digits whose value is the number of a process, a 32-bit word. -/
structure SpellsPid (digits : List Char) (pid : Nat) : Prop where
  ne_nil : digits ≠ []
  all_digits : ∀ c ∈ digits, c.isDigit = true
  value : Numeral.digitsValue 0 digits = pid
  lt : pid < 4294967296

theorem SpellsPid.ne_plus {pid : Nat} {rest : List Char} : ¬SpellsPid ('+' :: rest) pid := by
  intro h
  have hplus : '+'.isDigit = true := h.all_digits '+' (by simp)
  exact absurd hplus (by decide)

theorem spellsPid_iff {digits : List Char} {pid : Nat} :
    (if (!digits.isEmpty && digits.all Char.isDigit &&
      decide (Numeral.digitsValue 0 digits < pidBound)) = true then
        some (Numeral.digitsValue 0 digits) else none) = some pid ↔ SpellsPid digits pid := by
  simp only [Option.ite_none_right_eq_some, Bool.and_eq_true, Bool.not_eq_true',
    List.isEmpty_eq_false_iff, List.all_eq_true, decide_eq_true_eq, Option.some.injEq]
  constructor
  · rintro ⟨⟨⟨hne, hdigits⟩, hlt⟩, rfl⟩
    exact ⟨hne, hdigits, rfl, hlt⟩
  · rintro ⟨hne, hdigits, rfl, hlt⟩
    exact ⟨⟨⟨hne, hdigits⟩, hlt⟩, rfl⟩

/-- The number of a process as it is written, with or without a plus sign. -/
def WritesPid (s : List Char) (pid : Nat) : Prop :=
  ∃ digits, (s = digits ∨ s = '+' :: digits) ∧ SpellsPid digits pid

theorem readPid?_eq_some_iff {text : String} {pid : Nat} :
    readPid? text = some pid ↔ WritesPid (Text.trim text.toList) pid := by
  unfold readPid? Numeral.natural? WritesPid
  generalize Text.trim text.toList = s
  dsimp only
  split
  case h_1 rest =>
    rw [spellsPid_iff]
    constructor
    · intro h
      exact ⟨rest, .inr rfl, h⟩
    · rintro ⟨digits, rfl | hs, h⟩
      · exact absurd h SpellsPid.ne_plus
      · obtain rfl : rest = digits := by simpa using hs
        exact h
  case h_2 hsign =>
    rw [spellsPid_iff]
    constructor
    · intro h
      exact ⟨s, .inl rfl, h⟩
    · rintro ⟨digits, rfl | hs, h⟩
      · exact h
      · exact absurd hs (hsign digits)

end Daemon

namespace Machine

/-- A process has the number. Numbers of processes are positive and signed 32-bit words. -/
def HasProcess (m : Machine) (pid : Nat) : Prop :=
  1 ≤ pid ∧ pid ≤ greatestPid ∧ (pid = m.self ∨ m.processes.isBound pid = true)

theorem isAlive_iff {m : Machine} {pid : Nat} :
    m.isAlive pid = true ↔ pid = 0 ∨ m.HasProcess pid := by
  unfold isAlive HasProcess
  by_cases hzero : pid = 0
  · simp [hzero]
  · simp [hzero]
    omega

/-- A text spells the number of a process that there is. -/
def Finds (m : Machine) (text : String) (pid : Nat) : Prop :=
  Daemon.WritesPid (Text.trim text.toList) pid ∧ m.HasProcess pid

theorem Finds.unique {m : Machine} {text : String} {pid other : Nat} (h : m.Finds text pid)
    (hother : m.Finds text other) : pid = other := by
  have hpid := Daemon.readPid?_eq_some_iff.mpr h.1
  rw [Daemon.readPid?_eq_some_iff.mpr hother.1] at hpid
  exact (Option.some.inj hpid).symm

end Machine

/-! ## A machine that is watched -/

structure WatchedMachine where
  machine : Machine
  signals : List (Nat × Termination)

namespace WatchedMachine

def signalsOf : SystemCall → List (Nat × Termination)
  | .signal pid t => [(pid, t)]
  | _ => []

def reply (w : WatchedMachine) (c : SystemCall) : c.Reply × WatchedMachine :=
  ((w.machine.reply c).1, ⟨(w.machine.reply c).2, w.signals ++ signalsOf c⟩)

abbrev contract : Contract SystemCall.interface WatchedMachine := .ofHost reply

/-- A procedure sends no signal, whatever replies may follow. -/
abbrev silent : Contract SystemCall.interface Unit where
  Allows _ c := signalsOf c = []
  Follows _ _ _ _ := True
  MayHalt _ _ := True

theorem keeps_call {w : WatchedMachine} {c : SystemCall} {post : WatchedMachine → c.Reply → Prop}
    (h : post (w.reply c).2 (w.reply c).1) : Keeps contract post w (Procedure.call c) := by
  refine Program.keeps_call.mpr ⟨trivial, ?_⟩
  intro reply t hfollows
  obtain ⟨rfl, rfl⟩ := Prod.mk.inj hfollows.symm
  exact h

theorem keeps_signal {w : WatchedMachine} {pid : Nat} {t : Termination}
    {post : WatchedMachine → Unit → Prop}
    (h : post ⟨w.machine.signal pid t, w.signals ++ [(pid, t)]⟩ ()) :
    Keeps contract post w (Procedure.signal pid t) := keeps_call h

theorem keeps_sleep {w : WatchedMachine} {d : Duration} {post : WatchedMachine → Unit → Prop}
    (h : ∀ machine, post ⟨machine, w.signals⟩ ()) :
    Keeps contract post w (Procedure.sleep d) := by
  refine keeps_call ?_
  have hsame := h { w.machine with time := w.machine.time.later d }
  rwa [← List.append_nil w.signals] at hsame

theorem keeps_isAlive {w : WatchedMachine} {pid : Nat} {post : WatchedMachine → Bool → Prop}
    (h : ∀ alive, post w alive) : Keeps contract post w (Procedure.isAlive pid) := by
  refine keeps_call ?_
  have hsame : (w.reply (.isAlive pid)).2 = w := by
    change WatchedMachine.mk w.machine (w.signals ++ []) = w
    rw [List.append_nil]
  rw [hsame]
  exact h _

theorem keeps_of_silent {α : Type} {p : Procedure α} {post : Machine → α → Prop} {m : Machine}
    (signals : List (Nat × Termination)) (hp : Keeps Machine.contract post m p)
    (hsilent : Keeps silent (fun _ _ => True) () p) :
    Keeps contract (fun w r => w.signals = signals ∧ post w.machine r) ⟨m, signals⟩ p := by
  induction p generalizing m with
  | done a => exact ⟨rfl, hp⟩
  | halted why => exact hp
  | perform c next ih =>
    refine ⟨trivial, ?_⟩
    intro reply t hfollows
    obtain ⟨rfl, rfl⟩ := Prod.mk.inj hfollows.symm
    have hnone : signalsOf c = [] := hsilent.1
    change Keeps contract _ ⟨(m.reply c).2, signals ++ signalsOf c⟩ (next (m.reply c).1)
    rw [hnone, List.append_nil]
    exact ih _ (hp.2 _ _ rfl) (hsilent.2 (m.reply c).1 () trivial)

theorem silent_call {c : SystemCall} {post : Unit → c.Reply → Prop} (hc : signalsOf c = [])
    (h : ∀ r, post () r) : Keeps silent post () (Procedure.call c) := by
  refine Program.keeps_call.mpr ⟨hc, ?_⟩
  intro r _ _
  exact h r

theorem silent_removeFile {path : FilePath} {post : Unit → Except ScheduleError Unit → Prop}
    (h : ∀ r, post () r) : Keeps silent post () (Daemon.removeFile path).run := by
  refine keeps_bind.mpr (silent_call rfl ?_)
  intro r
  cases r with
  | ok _ => exact h _
  | error e => cases e <;> exact h _

theorem silent_removePid {daemon : Daemon} {post : Unit → Except ScheduleError Unit → Prop}
    (h : ∀ r, post () r) : Keeps silent post () daemon.removePid.run := by
  refine keeps_except_bind (silent_removeFile ?_)
  intro r
  cases r with
  | ok _ => exact silent_removeFile h
  | error e => exact h _

theorem silent_pid? {daemon : Daemon} {post : Unit → Except ScheduleError (Option Nat) → Prop}
    (h : ∀ r, post () r) : Keeps silent post () daemon.pid?.run := by
  have hremove : Keeps silent post () (do
      Daemon.removeFile daemon.pidFile
      return none : ScheduleProcedure (Option Nat)).run := by
    refine keeps_except_bind (silent_removeFile ?_)
    intro r
    cases r <;> exact h _
  refine keeps_except_bind (keeps_lift (silent_call rfl ?_))
  intro reply
  cases reply with
  | error e => cases e <;> exact h _
  | ok text =>
    dsimp only
    cases Daemon.readPid? text with
    | none => exact hremove
    | some pid =>
      refine keeps_except_bind (keeps_lift (silent_call rfl ?_))
      intro alive
      cases alive with
      | true => exact h _
      | false => exact hremove

end WatchedMachine

/-! ## What the file comes to -/

namespace Daemon

open FileTree (Removes)
open Machine (keeps_read keeps_isAlive keeps_remove)

variable {m : Machine} {paths : StatePaths} {text : String}

theorem keeps_pid?_of_read {post : Machine → Except ScheduleError (Option Nat) → Prop}
    (hread : m.files.read m.current paths.daemonFiles.pidFile = .ok text)
    (hlive : ∀ pid, readPid? text = some pid → m.isAlive pid = true → post m (.ok (some pid)))
    (hstale : (∀ pid, readPid? text = some pid → m.isAlive pid = false) →
      ∀ files, Removes m.current paths.daemonFiles.pidFile m.files files →
        post { m with files } (.ok none)) :
    Keeps Machine.contract post m paths.daemonFiles.pid?.run := by
  have hremove (hdead : ∀ pid, readPid? text = some pid → m.isAlive pid = false) :
      Keeps Machine.contract post m (do
        removeFile paths.daemonFiles.pidFile
        return none : ScheduleProcedure (Option Nat)).run := by
    obtain ⟨files, hfiles⟩ := FileTree.exists_remove_of_read hread
    refine keeps_except_bind (keeps_bind.mpr (keeps_remove ?_ ?_))
    · intro other hother
      exact hstale hdead other
        (FileTree.removes_of_remove paths.pidFile_leadsTo.no_slash hother)
    · intro e he
      rw [hfiles] at he
      cases he
  refine keeps_except_bind (keeps_lift (keeps_read ?_))
  rw [hread]
  dsimp only
  cases hpid : readPid? text with
  | none => exact hremove (by simp [hpid])
  | some pid =>
    refine keeps_except_bind (keeps_lift (keeps_isAlive ?_))
    cases halive : m.isAlive pid with
    | true => exact hlive pid hpid halive
    | false =>
      refine hremove ?_
      intro other hother
      rwa [← Option.some.inj (hpid.symm.trans hother)]

theorem perform_pid?_of_missing
    (hread : m.files.read m.current paths.daemonFiles.pidFile = .error .notFound) :
    m.perform paths.daemonFiles.pid?.run = some (.ok none, m) := by
  refine Machine.perform_eq (keeps_except_bind (keeps_lift (keeps_read ?_)))
  rw [hread]
  exact ⟨rfl, rfl⟩

theorem perform_pid?_of_finds {pid : Nat}
    (hread : m.files.read m.current paths.daemonFiles.pidFile = .ok text)
    (hfinds : m.Finds text pid) :
    m.perform paths.daemonFiles.pid?.run = some (.ok (some pid), m) := by
  have hpid : readPid? text = some pid := readPid?_eq_some_iff.mpr hfinds.1
  refine Machine.perform_eq (keeps_pid?_of_read hread ?_ ?_)
  · intro other hother _
    exact ⟨rfl, by rw [← hpid, hother]⟩
  · intro hdead
    have halive : m.isAlive pid = true := Machine.isAlive_iff.mpr (.inr hfinds.2)
    simp [hdead pid hpid] at halive

/-- Unless the file spells zero, a number in it that is answered for is one of a process. -/
theorem isAlive_eq_false (hzero : ¬WritesPid (Text.trim text.toList) 0)
    (hnone : ∀ pid, ¬m.Finds text pid) {pid : Nat} (hpid : readPid? text = some pid) :
    m.isAlive pid = false := by
  have hwrites : WritesPid (Text.trim text.toList) pid := readPid?_eq_some_iff.mp hpid
  by_contra halive
  rw [Bool.not_eq_false, Machine.isAlive_iff] at halive
  cases halive with
  | inl h =>
    rw [h] at hwrites
    exact hzero hwrites
  | inr h => exact hnone pid ⟨hwrites, h⟩

theorem keeps_pid?_of_not_finds
    (hread : m.files.read m.current paths.daemonFiles.pidFile = .ok text)
    (hzero : ¬WritesPid (Text.trim text.toList) 0) (hnone : ∀ pid, ¬m.Finds text pid) :
    Keeps Machine.contract (fun next r => r = .ok none ∧
      next.files.read next.current paths.daemonFiles.pidFile = .error .notFound) m
      paths.daemonFiles.pid?.run := by
  refine keeps_pid?_of_read hread ?_ ?_
  · intro pid hpid halive
    simp [isAlive_eq_false hzero hnone hpid] at halive
  · intro _ files hfiles
    exact ⟨rfl, hfiles.missing⟩

theorem exists_perform_pid?_of_not_finds
    (hread : m.files.read m.current paths.daemonFiles.pidFile = .ok text)
    (hzero : ¬WritesPid (Text.trim text.toList) 0) (hnone : ∀ pid, ¬m.Finds text pid) :
    ∃ next, m.perform paths.daemonFiles.pid?.run = some (.ok none, next) ∧
      next.files.read next.current paths.daemonFiles.pidFile = .error .notFound := by
  obtain ⟨r, next, hperform, rfl, hgone⟩ := (keeps_pid?_of_not_finds hread hzero hnone).finish
  exact ⟨next, hperform, hgone⟩

theorem perform_pid?_eq_some_iff {pid : Nat}
    (hread : m.files.read m.current paths.daemonFiles.pidFile = .ok text)
    (hzero : ¬WritesPid (Text.trim text.toList) 0) :
    (∃ next, m.perform paths.daemonFiles.pid?.run = some (.ok (some pid), next)) ↔
      m.Finds text pid := by
  constructor
  · rintro ⟨next, hperform⟩
    by_cases hfinds : ∃ other, m.Finds text other
    · obtain ⟨other, hother⟩ := hfinds
      rw [perform_pid?_of_finds hread hother] at hperform
      obtain rfl : other = pid := by simpa using congrArg (Option.map Prod.fst) hperform
      exact hother
    · obtain ⟨gone, hgone, -⟩ :=
        exists_perform_pid?_of_not_finds hread hzero (not_exists.mp hfinds)
      rw [hgone] at hperform
      cases hperform
  · intro hpid
    exact ⟨m, perform_pid?_of_finds hread hpid⟩

theorem keeps_startTime? {daemon : Daemon} {post : Machine → Option Timestamp → Prop}
    (h : ∀ start, post m start) : Keeps Machine.contract post m daemon.startTime? := by
  have hmodified : Keeps Machine.contract post m (Procedure.modified daemon.pidFile) :=
    Machine.keeps_call (h _)
  refine keeps_bind.mpr (keeps_read ?_)
  cases m.files.read m.current daemon.startTimeFile with
  | error e => exact hmodified
  | ok text =>
    dsimp only
    cases Timestamp.readStrict? (trimmed text) with
    | none => exact hmodified
    | some start => exact h _

theorem keeps_status_of_read
    (hread : m.files.read m.current paths.daemonFiles.pidFile = .ok text)
    (hzero : ¬WritesPid (Text.trim text.toList) 0) :
    Keeps Machine.contract (fun _ r => ∃ s, r = .ok s ∧ ∀ pid, s.pid = some pid ↔ m.Finds text pid)
      m paths.daemonFiles.status.run := by
  by_cases hfinds : ∃ pid, m.Finds text pid
  · obtain ⟨pid, hpid⟩ := hfinds
    have hfound := keeps_of_finish (perform_pid?_of_finds hread hpid)
    refine keeps_except_bind (hfound.mono ?_)
    rintro next r ⟨rfl, rfl⟩
    refine keeps_except_bind (keeps_lift (keeps_startTime? ?_))
    intro start
    refine ⟨⟨some pid, start⟩, rfl, ?_⟩
    intro other
    constructor
    · rintro heq
      rwa [← Option.some.inj heq]
    · intro hother
      rw [hpid.unique hother]
  · have hnone : ∀ pid, ¬m.Finds text pid := not_exists.mp hfinds
    refine keeps_except_bind ((keeps_pid?_of_not_finds hread hzero hnone).mono ?_)
    rintro next r ⟨rfl, -⟩
    exact ⟨⟨none, none⟩, rfl, by simp [hnone]⟩

/-- What a stop comes to that has sent signals. -/
structure Stopped (paths : StatePaths) (signals : List (Nat × Termination)) (w : WatchedMachine)
    (r : Except ScheduleError Bool) : Prop where
  signals : w.signals = signals
  ne_false : r ≠ .ok false
  removed : r = .ok true →
    w.machine.files.read w.machine.current paths.daemonFiles.pidFile = .error .notFound ∧
    w.machine.files.read w.machine.current paths.daemonFiles.startTimeFile = .error .notFound

theorem keeps_removePid_stopped (m : Machine) (signals : List (Nat × Termination)) :
    Keeps WatchedMachine.contract (Stopped paths signals) ⟨m, signals⟩ (do
      paths.daemonFiles.removePid
      return true : ScheduleProcedure Bool).run := by
  have hremove : Keeps Machine.contract (fun next r => r = .ok () →
      next.files.read next.current paths.daemonFiles.pidFile = .error .notFound ∧
      next.files.read next.current paths.daemonFiles.startTimeFile = .error .notFound) m
      paths.daemonFiles.removePid.run := by
    refine keeps_removePid paths ?_ ?_
    · intro files hpid hstart _ _
      exact ⟨hpid, hstart⟩
    · intro files path cause _ h
      cases h
  have hwatched := WatchedMachine.keeps_of_silent signals hremove
    (WatchedMachine.silent_removePid fun _ => trivial)
  refine keeps_except_bind (hwatched.mono ?_)
  rintro w r ⟨hsignals, hremoved⟩
  cases r with
  | error e => exact ⟨hsignals, by simp, by simp⟩
  | ok _ => exact ⟨hsignals, by simp, fun _ => hremoved rfl⟩

/-- The daemon that is found is sent a signal, and a second one if it is still there after a period
of grace; nobody else is sent one. -/
theorem keeps_stop_of_finds {pid : Nat} (grace : Duration)
    (hread : m.files.read m.current paths.daemonFiles.pidFile = .ok text)
    (hfinds : m.Finds text pid) :
    Keeps WatchedMachine.contract (fun w r => Stopped paths [(pid, .graceful)] w r ∨
      Stopped paths [(pid, .graceful), (pid, .forced)] w r) ⟨m, []⟩
      (paths.daemonFiles.stop grace).run := by
  have hfound := WatchedMachine.keeps_of_silent []
    (keeps_of_finish (perform_pid?_of_finds hread hfinds))
    (WatchedMachine.silent_pid? fun _ => trivial)
  refine keeps_except_bind (hfound.mono ?_)
  rintro ⟨next, signals⟩ r ⟨hsignals, -, rfl⟩
  obtain rfl : signals = [] := hsignals
  refine keeps_except_bind (keeps_lift (WatchedMachine.keeps_signal ?_))
  refine keeps_except_bind (keeps_lift (WatchedMachine.keeps_sleep ?_))
  intro later
  refine keeps_except_bind (keeps_lift (WatchedMachine.keeps_isAlive ?_))
  intro alive
  cases alive with
  | false => exact (keeps_removePid_stopped later _).mono fun w r h => .inl h
  | true =>
    refine keeps_except_bind (keeps_lift (WatchedMachine.keeps_signal ?_))
    exact (keeps_removePid_stopped _ _).mono fun w r h => .inr h

theorem keeps_stop_of_not_finds (grace : Duration)
    (hread : m.files.read m.current paths.daemonFiles.pidFile = .ok text)
    (hzero : ¬WritesPid (Text.trim text.toList) 0) (hnone : ∀ pid, ¬m.Finds text pid) :
    Keeps WatchedMachine.contract (fun w r => w.signals = [] ∧ r = .ok false) ⟨m, []⟩
      (paths.daemonFiles.stop grace).run := by
  have hmissing := WatchedMachine.keeps_of_silent []
    (keeps_pid?_of_not_finds hread hzero hnone)
    (WatchedMachine.silent_pid? fun _ => trivial)
  refine keeps_except_bind (hmissing.mono ?_)
  rintro w r ⟨hsignals, rfl, -⟩
  exact ⟨hsignals, rfl⟩

/-- What the file of the daemon's process is taken for, whatever text is in it, unless it spells
zero. The daemon is found exactly if the text spells the number of a process that there is, and
nothing changes then; otherwise there is none, and the file is gone when it is looked for again. The
status tells of the daemon that is found. A stop sends signals to that process alone, and leaves no
record of it where it succeeds; where none is found it sends no signal. -/
theorem found_exactly (paths : StatePaths) (m : Machine) (text : String)
    (hread : m.files.read m.current paths.daemonFiles.pidFile = .ok text)
    (hzero : ¬WritesPid (Text.trim text.toList) 0) :
    (∀ pid, (∃ next, m.perform paths.daemonFiles.pid?.run = some (.ok (some pid), next)) ↔
      m.Finds text pid) ∧
    (∀ pid, m.Finds text pid → m.perform paths.daemonFiles.pid?.run = some (.ok (some pid), m)) ∧
    ((∀ pid, ¬m.Finds text pid) → ∃ next,
      m.perform paths.daemonFiles.pid?.run = some (.ok none, next) ∧
      next.files.read next.current paths.daemonFiles.pidFile = .error .notFound ∧
      next.perform paths.daemonFiles.pid?.run = some (.ok none, next)) ∧
    (∃ s next, m.perform paths.daemonFiles.status.run = some (.ok s, next) ∧
      (∀ pid, s.pid = some pid ↔ m.Finds text pid) ∧
      (s.isRunning = true ↔ ∃ pid, m.Finds text pid)) ∧
    ∀ grace,
      (∀ pid, m.Finds text pid → ∃ r w,
        (paths.daemonFiles.stop grace).run.finish WatchedMachine.reply ⟨m, []⟩ = some (r, w) ∧
        (Stopped paths [(pid, .graceful)] w r ∨
          Stopped paths [(pid, .graceful), (pid, .forced)] w r)) ∧
      ((∀ pid, ¬m.Finds text pid) → ∃ w,
        (paths.daemonFiles.stop grace).run.finish WatchedMachine.reply ⟨m, []⟩ =
          some (.ok false, w) ∧ w.signals = []) := by
  refine ⟨fun pid => perform_pid?_eq_some_iff hread hzero, fun pid => perform_pid?_of_finds hread,
    ?_, ?_, ?_⟩
  · intro hnone
    obtain ⟨next, hperform, hgone⟩ := exists_perform_pid?_of_not_finds hread hzero hnone
    exact ⟨next, hperform, hgone, perform_pid?_of_missing hgone⟩
  · obtain ⟨r, next, hperform, s, rfl, hpid⟩ := (keeps_status_of_read hread hzero).finish
    refine ⟨s, next, hperform, hpid, ?_⟩
    rw [DaemonStatus.isRunning, Option.isSome_iff_exists]
    exact exists_congr hpid
  · intro grace
    constructor
    · intro pid hpid
      exact (keeps_stop_of_finds grace hread hpid).finish
    · intro hnone
      obtain ⟨r, w, hfinish, hsignals, rfl⟩ :=
        (keeps_stop_of_not_finds grace hread hzero hnone).finish
      exact ⟨w, hfinish, hsignals⟩

def rootPaths : StatePaths := ⟨"/", "/history", "/schedules.json", "/"⟩

def recorded (text : String) : Machine :=
  ⟨⟨[(["scheduler.pid"], ⟨some text, ⟨0, 0⟩⟩)]⟩, "/", ⟨0, 0⟩, 7, [(12, ⟨none, true⟩)], 0⟩

theorem finds_recorded_iff {text : String} {pid : Nat} : (recorded text).Finds text pid ↔
    readPid? text = some pid ∧ (pid = 7 ∨ pid = 12) := by
  have hprocess : (recorded text).HasProcess pid ↔ pid = 7 ∨ pid = 12 := by
    have hgreatest : Machine.greatestPid = 2147483647 := rfl
    simp only [Machine.HasProcess, recorded, hgreatest, Bindings.isBound, Bindings.find?]
    by_cases htwelve : pid = 12
    · simp [htwelve]
    · simp [htwelve]
      omega
  rw [Machine.Finds, ← readPid?_eq_some_iff, hprocess]

theorem found_exactly_recorded :
    (recorded " +12\n").perform rootPaths.daemonFiles.pid?.run =
      some (.ok (some 12), recorded " +12\n") ∧
    (∃ next, (recorded "13").perform rootPaths.daemonFiles.pid?.run = some (.ok none, next) ∧
      next.files.read next.current rootPaths.daemonFiles.pidFile = .error .notFound ∧
      next.perform rootPaths.daemonFiles.pid?.run = some (.ok none, next)) := by
  have hread (text : String) : (recorded text).files.read (recorded text).current
      rootPaths.daemonFiles.pidFile = .ok text := rfl
  have htwelve : ¬WritesPid (Text.trim " +12\n".toList) 0 := by
    rw [← readPid?_eq_some_iff]
    decide
  have hthirteen : ¬WritesPid (Text.trim "13".toList) 0 := by
    rw [← readPid?_eq_some_iff]
    decide
  constructor
  · refine (found_exactly rootPaths (recorded " +12\n") _ (hread _) htwelve).2.1 12 ?_
    exact finds_recorded_iff.mpr (by decide)
  · refine (found_exactly rootPaths (recorded "13") _ (hread _) hthirteen).2.2.1 ?_
    intro pid hpid
    obtain ⟨hread, hself⟩ := finds_recorded_iff.mp hpid
    have hnumber : readPid? "13" = some 13 := by decide
    obtain rfl : 13 = pid := Option.some.inj (hnumber.symm.trans hread)
    exact absurd hself (by decide)

/-- Zero is no process, but it is answered for by the asking process's own group: a file that spells
it is kept, the daemon is said to run, and stopping it signals the group. -/
theorem zero_trusted :
    (∀ pid, ¬(recorded "0").Finds "0" pid) ∧
    (recorded "0").perform rootPaths.daemonFiles.pid?.run = some (.ok (some 0), recorded "0") ∧
    ((recorded "0").perform rootPaths.daemonFiles.status.run).map (fun e =>
      e.1.toOption.map DaemonStatus.isRunning) = some (some true) ∧
    ((rootPaths.daemonFiles.stop ⟨10 * Duration.second⟩).run.finish WatchedMachine.reply
      ⟨recorded "0", []⟩).map (fun e => (e.1, e.2.signals)) =
      some (.ok true, [(0, .graceful), (0, .forced)]) := by
  refine ⟨?_, by decide +kernel, by decide +kernel, by decide +kernel⟩
  intro pid hpid
  obtain ⟨hread, hself⟩ := finds_recorded_iff.mp hpid
  have hnumber : readPid? "0" = some 0 := by decide
  obtain rfl : 0 = pid := Option.some.inj (hnumber.symm.trans hread)
  exact absurd hself (by decide)

end Daemon

end Runbook
