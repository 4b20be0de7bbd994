import Runbook.Scheduler.Rehearsal
import Runbook.Proofs.DaemonFiles
import Runbook.Proofs.SchedulingRules

/-!
What a start and a reload of the scheduler come to, unless the expression of a stored schedule
overflows. Main statement: a start that is refused before the schedules are loaded leaves the tasks
and the files as they are, but for a file that names no live process; if the schedules cannot be
loaded, there are no tasks, and what was recorded stays.
-/

namespace Runbook

open FileTree (Spares Removes)

/-- A host that asks a machine in its state whatever is asked of the system. -/
structure OnMachine {S : Type} (host : Host SchedulerCall.interface S) (machine : S → Machine)
    (put : S → Machine → S) : Prop where
  reply : ∀ s c, host s (.system c) = (((machine s).reply c).1, put s ((machine s).reply c).2)
  machine_put : ∀ s m, machine (put s m) = m
  put_put : ∀ s m n, put (put s m) n = put s n
  put_machine : ∀ s, put s (machine s) = s

theorem OnMachine.keeps {S α : Type} {host : Host SchedulerCall.interface S}
    {machine : S → Machine} {put : S → Machine → S} (h : OnMachine host machine put)
    {may : Halt → Prop} {p : Procedure α} {post : S → α → Prop} {s : S}
    (hp : Program.Keeps Machine.contract (fun m a => post (put s m) a) (machine s) p) :
    Program.Keeps (Contract.unless host may).onSystem post s p := by
  induction p generalizing s with
  | done a =>
    have hpost : post (put s (machine s)) a := hp
    rwa [h.put_machine] at hpost
  | halted why => exact hp.elim
  | perform c next ih =>
    refine ⟨trivial, ?_⟩
    intro reply t hfollows
    obtain ⟨rfl, rfl⟩ := Prod.mk.inj ((h.reply s c).symm.trans hfollows)
    have hnext := hp.2 ((machine s).reply c).1 ((machine s).reply c).2 rfl
    apply ih
    simp only [h.machine_put, h.put_put]
    exact hnext

namespace SchedulerRehearsal

variable {α : Type} {s : SchedulerRehearsal} {σ : Scheduler} {may : Halt → Prop}

abbrev contract (may : Halt → Prop) : Contract SchedulerCall.interface SchedulerRehearsal :=
  .unless host may

/-- The machine is not touched by what is shown, nor by a look at the clock. -/
theorem isIdle (m : Machine) : (contract may).IsIdle fun s => s.machine = m where
  now s hs := ⟨trivial, fun now t ht => by
    obtain ⟨-, rfl⟩ := Prod.mk.inj ht.symm
    exact hs⟩
  notice s n hs := ⟨trivial, fun u t ht => by
    obtain ⟨-, rfl⟩ := Prod.mk.inj ht.symm
    exact hs⟩

theorem onMachine : OnMachine host machine fun s m => { s with machine := m } where
  reply _ _ := rfl
  machine_put _ _ := rfl
  put_put _ _ _ := rfl
  put_machine _ := rfl

theorem keeps_onSystem {p : Procedure α} {post : SchedulerRehearsal → α → Prop}
    (h : Program.Keeps Machine.contract (fun m a => post { s with machine := m } a) s.machine p) :
    Program.Keeps (contract may).onSystem post s p := onMachine.keeps h

theorem keeps_procedure {p : Procedure α} {post : SchedulerRehearsal → Scheduler → α → Prop}
    (h : Program.Keeps Machine.contract (fun m a => post { s with machine := m } σ a) s.machine p) :
    Scheduling.Keeps (contract may) post s σ (Scheduling.procedure p) :=
  Scheduling.keeps_procedure.mpr (keeps_onSystem h)

def perform (s : SchedulerRehearsal) (σ : Scheduler) (p : CheckedScheduling α) :
    Option ((Except ScheduleError α × Scheduler) × SchedulerRehearsal) :=
  (p.run.run σ).finish host s

theorem exists_of_keeps_or {p : CheckedScheduling α}
    {post : SchedulerRehearsal → Scheduler → Except ScheduleError α → Prop}
    (h : Scheduling.Keeps (contract may) post s σ p.run) :
    (∃ r τ t, s.perform σ p = some ((r, τ), t) ∧ post t τ r) ∨
      s.perform σ p = none ∧ ∃ why, may why := by
  rcases Program.Keeps.finish_or h with ⟨⟨r, τ⟩, t, hfinish, hpost⟩ | hhalted
  · exact .inl ⟨r, τ, t, hfinish, hpost⟩
  · exact .inr hhalted

theorem exists_of_keeps {p : CheckedScheduling α}
    {post : SchedulerRehearsal → Scheduler → Except ScheduleError α → Prop}
    (h : Scheduling.Keeps (contract fun _ => False) post s σ p.run) :
    ∃ r τ t, s.perform σ p = some ((r, τ), t) ∧ post t τ r :=
  (exists_of_keeps_or h).resolve_right fun ⟨_, _, hwhy⟩ => hwhy

theorem of_perform {p : CheckedScheduling α} {r : Except ScheduleError α} {τ : Scheduler}
    {t : SchedulerRehearsal} {post : SchedulerRehearsal → Scheduler → Except ScheduleError α → Prop}
    (h : Scheduling.Keeps (contract may) post s σ p.run)
    (hperform : s.perform σ p = some ((r, τ), t)) : post t τ r := by
  have hfits := Program.Keeps.fits h hperform
  exact hfits

end SchedulerRehearsal

/-- An enabled schedule that a store has in its file has an expression that overflows. -/
def ScheduleStore.HoldsOverflow (store : ScheduleStore) (content : Except SystemError String) :
    Prop := ∃ schedules, store.loaded content = .ok schedules ∧ Schedule.HasOverflow schedules

namespace Scheduler

open SchedulerRehearsal (contract isIdle keeps_procedure)
open Scheduling (Keeps)
open CheckedScheduling (keeps_bind keeps_lift keeps_get)

variable {s : SchedulerRehearsal} {σ : Scheduler} {may : Halt → Prop}

/-! ### Loading -/

/-- A reload does not touch the machine, and leaves no task if the schedules cannot be loaded. -/
theorem rehearsal_keeps_reload
    {post : SchedulerRehearsal → Scheduler → Except ScheduleError StartReport → Prop}
    (hok : ∀ t tasks report, t.machine = s.machine → post t { σ with tasks } (.ok report))
    (herror : ∀ e, σ.store.loaded (s.machine.files.read s.machine.current σ.store.path) = .error e →
      post s { σ with tasks := [] } (.error e))
    (hover : σ.store.HoldsOverflow (s.machine.files.read s.machine.current σ.store.path) →
      may .overflow) : Keeps (contract may) post s σ reload.run := by
  refine keeps_reload (isIdle s.machine) (SchedulerRehearsal.keeps_onSystem ?_) hok
  refine Machine.keeps_load σ.store ?_
  cases hload : σ.store.loaded (s.machine.files.read s.machine.current σ.store.path) with
  | error e => exact herror e hload
  | ok schedules => exact ⟨rfl, fun hoverflow _ _ => hover ⟨schedules, hload, hoverflow⟩⟩

/-! ### Starting -/

section

variable (paths : StatePaths) (m : Machine)

/-- The file of the daemon names another process that lives. -/
def HasOther (pid : Nat) : Prop := ∃ text,
  m.files.read m.current paths.daemonFiles.pidFile = .ok text ∧ Daemon.readPid? text = some pid ∧
    m.isAlive pid = true ∧ pid ≠ m.self

/-- The file of the daemon names no process that lives, whatever else it says. -/
def IsStale : Prop := ∃ text, m.files.read m.current paths.daemonFiles.pidFile = .ok text ∧
  ∀ pid, Daemon.readPid? text = some pid → m.isAlive pid = false

/-- All files are as before, but that the file of the daemon is gone if it was stale. -/
def Tidied (files : FileTree) : Prop := Spares m.current [] m.files files ∨
  IsStale paths m ∧ Spares m.current [paths.daemonFiles.pidFile] m.files files ∧
    ∀ text, files.read m.current paths.daemonFiles.pidFile ≠ .ok text

def Recorded (changes : List FilePath) (files : FileTree) : Prop :=
  Spares m.current changes m.files files ∧
    files.read m.current paths.daemonFiles.pidFile = .ok (toString m.self)

/-- The files when the schedules are loaded: those of a daemon tell of it. -/
def Entered (asDaemon : Bool) (files : FileTree) : Prop :=
  (∀ pid, ¬ HasOther paths m pid) ∧
    if asDaemon then Recorded paths m paths.daemonRecords files else Tidied paths m files

/-- What a start comes to: how it ends, and the scheduler and the files after it. -/
inductive StartEnds (σ : Scheduler) (asDaemon : Bool) :
    Except ScheduleError StartReport → Scheduler → FileTree → Prop
  /-- Another process is the daemon. -/
  | refused {pid : Nat} (hother : HasOther paths m pid) :
    StartEnds σ asDaemon (.error (.alreadyRunning pid)) σ m.files
  /-- A file cannot be read, removed or written, before anything is recorded. -/
  | unrecorded {path : FilePath} {cause : String} {files : FileTree}
    (htidied : Tidied paths m files) : StartEnds σ asDaemon (.error (.io path cause)) σ files
  /-- The time of the start cannot be written. -/
  | untimed {path : FilePath} {cause : String} {files : FileTree} (hdaemon : asDaemon = true)
    (hrecorded : Recorded paths m [paths.daemonFiles.pidFile] files) :
    StartEnds σ asDaemon (.error (.io path cause)) σ files
  /-- The schedules cannot be loaded. -/
  | unloaded {e : ScheduleError} {files : FileTree} (hentered : Entered paths m asDaemon files)
    (hload : σ.store.loaded (files.read m.current σ.store.path) = .error e) :
    StartEnds σ asDaemon (.error e) { σ with tasks := [] } files
  | started {report : StartReport} {tasks : Bindings ScheduledTask} {files : FileTree}
    (hentered : Entered paths m asDaemon files) :
    StartEnds σ asDaemon (.ok report) { σ with tasks } files

end

variable {paths : StatePaths} {m : Machine} {files more : FileTree}

theorem Tidied.spares (h : Tidied paths m files) :
    Spares m.current [paths.daemonFiles.pidFile] m.files files := by
  rcases h with hsame | ⟨-, hspares, -⟩
  · exact hsame.mono (by simp)
  · exact hspares

/-- New directories bring no file back. -/
theorem Tidied.trans (h : Tidied paths m files) (hmore : Spares m.current [] files more) :
    Tidied paths m more := by
  have hslash := paths.pidFile_leadsTo.no_slash
  rcases h with hsame | ⟨⟨text, hread, hdead⟩, hspares, hgone⟩
  · exact .inl (hsame.trans (by simp) hmore)
  · refine .inr ⟨⟨text, hread, hdead⟩, hspares.trans (by simpa using hslash) (hmore.mono (by simp)),
      fun other hother => ?_⟩
    obtain ⟨place, hlocate, -⟩ := FileTree.read_eq_ok_iff.mp hread
    have hplace := hspares.directories.locate hslash hlocate
    exact hgone other (hmore.read_of_located hslash hplace hother)

/-- When the schedules are loaded, one is enabled whose expression overflows. -/
def MeetsOverflow (paths : StatePaths) (m : Machine) (store : ScheduleStore) (asDaemon : Bool) :
    Prop :=
  ∃ files, Entered paths m asDaemon files ∧ store.HoldsOverflow (files.read m.current store.path)

theorem keeps_enter (asDaemon : Bool) (process : Nat)
    (hmachine : s.machine = { m with files }) (hother : ∀ pid, ¬ HasOther paths m pid)
    (htidied : Tidied paths m files)
    (hover : MeetsOverflow paths m σ.store asDaemon → may .overflow) :
    Keeps (contract may) (fun t τ r => ∃ files, t.machine = { m with files } ∧
      StartEnds paths m σ asDaemon r τ files) s σ (enter paths.daemonFiles process asDaemon).run := by
  have hreload : ∀ (t : SchedulerRehearsal) (files : FileTree), t.machine = { m with files } →
      Entered paths m asDaemon files →
      Keeps (contract may) (fun t τ r => ∃ files, t.machine = { m with files } ∧
        StartEnds paths m σ asDaemon r τ files) t σ (do
          let report ← reload
          Scheduling.notify (.started asDaemon process)
          return report : CheckedScheduling StartReport).run := by
    intro t files ht hentered
    refine keeps_bind (rehearsal_keeps_reload (fun t' tasks report ht' => ?_) (fun e hload => ?_)
      fun hoverflow => ?_)
    · refine keeps_bind (keeps_lift (keeps_notify (isIdle t.machine) ht' fun u hu => ?_))
      exact ⟨files, hu.trans ht, .started hentered⟩
    · refine ⟨files, ht, .unloaded hentered ?_⟩
      rw [ht] at hload
      exact hload
    · rw [ht] at hoverflow
      exact hover ⟨files, hentered, hoverflow⟩
  refine keeps_bind (keeps_lift (keeps_notify (isIdle s.machine) rfl fun t ht => ?_))
  have hmachine : t.machine = { m with files } := ht.trans hmachine
  cases asDaemon with
  | false => exact hreload t files hmachine ⟨hother, htidied⟩
  | true =>
    refine keeps_bind (keeps_procedure (Daemon.keeps_savePid paths ?_ ?_ ?_))
    · intro rest path cause hspares
      rw [hmachine] at hspares
      exact ⟨rest, by rw [hmachine], .unrecorded (htidied.trans hspares)⟩
    · intro rest path cause hspares hread
      rw [hmachine] at hspares hread
      refine ⟨rest, by rw [hmachine], .untimed rfl ⟨htidied.spares.trans ?_ hspares, hread⟩⟩
      simpa using paths.pidFile_leadsTo.no_slash
    · intro rest hspares hread
      rw [hmachine] at hspares hread
      refine hreload _ rest (by rw [hmachine]) ⟨hother, ⟨?_, hread⟩⟩
      refine (htidied.spares.mono ?_).trans (fun path => StatePaths.no_slash_of_mem) hspares
      simp [StatePaths.daemonRecords]

theorem keeps_start (hdaemon : σ.daemon = paths.daemonFiles) (asDaemon : Bool)
    (hover : MeetsOverflow paths s.machine σ.store asDaemon → may .overflow) :
    Keeps (contract may) (fun t τ r => ∃ files, t.machine = { s.machine with files } ∧
      StartEnds paths s.machine σ asDaemon r τ files) s σ (start asDaemon).run := by
  refine keeps_bind (keeps_get.mpr ?_)
  refine keeps_bind (keeps_lift (keeps_procedure (Machine.keeps_processId ?_)))
  rw [hdaemon]
  refine keeps_bind (keeps_procedure (Daemon.keeps_pid? paths ?_ ?_ ?_ ?_))
  · intro path cause
    exact ⟨s.machine.files, rfl, .unrecorded (.inl .refl)⟩
  · intro hmissing
    refine keeps_enter asDaemon _ rfl ?_ (.inl .refl) hover
    rintro pid ⟨text, hread, -⟩
    rw [hmissing] at hread
    cases hread
  · intro text files hread hdead hremoves
    refine keeps_enter asDaemon _ rfl ?_ (.inr ⟨⟨text, hread, hdead⟩, hremoves.spares, ?_⟩) hover
    · rintro pid ⟨other, hother, hpid, hlives, -⟩
      obtain rfl : text = other := Except.ok.inj (hread.symm.trans hother)
      simp [hdead pid hpid] at hlives
    · rw [hremoves.missing]
      simp
  · intro text pid hread hpid hlives
    dsimp only
    split
    next hne =>
      exact ⟨s.machine.files, rfl, .refused ⟨text, hread, hpid, hlives, hne⟩⟩
    next hself =>
      refine keeps_enter asDaemon _ rfl ?_ (.inl .refl) hover
      rintro other ⟨text', hother, hpid', -, hne⟩
      obtain rfl : text = text' := Except.ok.inj (hread.symm.trans hother)
      obtain rfl : pid = other := Option.some.inj (hpid.symm.trans hpid')
      exact hself hne

/-- A start and a reload come to an end, unless an enabled schedule that is loaded has an expression
that overflows. Of a start that is refused before the schedules are loaded no trace is left but a
recorded process; a reload does not touch the machine. Once the loading has failed there are no
tasks. -/
theorem start_and_reload_outcome (store : ScheduleStore) (paths : StatePaths)
    (tasks : Bindings ScheduledTask) (isShutDown : Bool) (s : SchedulerRehearsal) :
    (∀ asDaemon, (∃ r τ t files,
      s.perform ⟨store, paths.daemonFiles, tasks, isShutDown⟩ (start asDaemon) = some ((r, τ), t) ∧
        t.machine = { s.machine with files } ∧
        StartEnds paths s.machine ⟨store, paths.daemonFiles, tasks, isShutDown⟩ asDaemon r τ files) ∨
      s.perform ⟨store, paths.daemonFiles, tasks, isShutDown⟩ (start asDaemon) = none ∧
        MeetsOverflow paths s.machine store asDaemon) ∧
    ((∃ r τ t, s.perform ⟨store, paths.daemonFiles, tasks, isShutDown⟩ reload = some ((r, τ), t) ∧
      t.machine = s.machine ∧ ∀ e, r = .error e → τ.tasks = [] ∧
        store.loaded (s.machine.files.read s.machine.current store.path) = .error e) ∨
      s.perform ⟨store, paths.daemonFiles, tasks, isShutDown⟩ reload = none ∧
        store.HoldsOverflow (s.machine.files.read s.machine.current store.path)) := by
  constructor
  · intro asDaemon
    have hstart : Keeps (contract fun _ => MeetsOverflow paths s.machine store asDaemon)
        (fun t τ r => ∃ files, t.machine = { s.machine with files } ∧ StartEnds paths s.machine
          ⟨store, paths.daemonFiles, tasks, isShutDown⟩ asDaemon r τ files) s
        ⟨store, paths.daemonFiles, tasks, isShutDown⟩ (start asDaemon).run :=
      keeps_start rfl asDaemon id
    rcases SchedulerRehearsal.exists_of_keeps_or hstart with
      ⟨r, τ, t, hperform, files, hmachine, hends⟩ | ⟨hnone, _, hmeets⟩
    · exact .inl ⟨r, τ, t, files, hperform, hmachine, hends⟩
    · exact .inr ⟨hnone, hmeets⟩
  · have hreload : Keeps
        (contract fun _ => store.HoldsOverflow (s.machine.files.read s.machine.current store.path))
        (fun t τ r => t.machine = s.machine ∧ ∀ e, r = .error e → τ.tasks = [] ∧
          store.loaded (s.machine.files.read s.machine.current store.path) = .error e) s
        ⟨store, paths.daemonFiles, tasks, isShutDown⟩ reload.run := by
      refine rehearsal_keeps_reload (fun t tasks report ht => ⟨ht, nofun⟩) (fun e hload => ?_) id
      refine ⟨rfl, fun e' he => ?_⟩
      cases he
      exact ⟨rfl, hload⟩
    exact (SchedulerRehearsal.exists_of_keeps_or hreload).imp_right
      fun ⟨hnone, _, hholds⟩ => ⟨hnone, hholds⟩

/-! ### A start that leaves a trace -/

namespace BrokenStore

def home : StatePaths := .beneath "/"

def rehearsal : SchedulerRehearsal where
  machine := ⟨⟨[(["schedules.json"], ⟨some "\x7b", ⟨0, 0⟩⟩)]⟩, "/", ⟨0, 0⟩, 7, [], 0⟩
  runs := ⟨[], ⟨true, some 0, [], [], false, .zero⟩, [], [], .zero, []⟩
  notices := []
  commands := []
  silences := []

def everyMinute : Cron where
  seconds := [0]
  minutes := List.range 60
  hours := List.range 24
  days := List.range' 1 31
  months := List.range' 1 12
  weekdays := List.range' 1 7
  years := List.range' 1970 131

def task : ScheduledTask where
  schedule := ⟨"a", none, "/a.yaml", "* * * * *", true, ⟨0, 0⟩, none, none, none, none⟩
  cron := everyMinute
  zone := .localTime
  wait := some (.ofSeconds 60)

def scheduler : Scheduler := ⟨⟨home.schedules⟩, home.daemonFiles, [("a", task)], false⟩

end BrokenStore

open BrokenStore (home rehearsal scheduler) in
/-- A start and a reload fail, and the task is gone; the start leaves the number of its process. -/
theorem failed_start_leaves_traces : scheduler.active = ["a"] ∧
    rehearsal.machine.files.read "/" home.pidFile = .error .notFound ∧
    (∃ after ∈ rehearsal.perform scheduler (start true), after.1.1 = .error .serialization ∧
      after.1.2.active = [] ∧ after.2.machine.files.read "/" home.pidFile = .ok "7") ∧
    ∃ after ∈ rehearsal.perform scheduler reload, after.1.1 = .error .serialization ∧
      after.1.2.active = [] := by
  decide +kernel

end Scheduler

end Runbook
