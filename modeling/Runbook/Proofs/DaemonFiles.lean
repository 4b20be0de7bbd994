import Runbook.Daemon
import Runbook.System.Machine
import Runbook.Proofs.FilePlaces
import Runbook.Proofs.StoreContract

/-!
What the procedures on the files of the daemon do on a machine. Main statements: looking for the
daemon changes nothing but a file that names no live process, which it removes; what is recorded is
read back; and what is removed is missing.
-/

namespace Runbook

open Program

/-! ### Paths -/

namespace StatePaths

variable (paths : StatePaths)

theorem pidFile_leadsTo : paths.daemonFiles.pidFile.LeadsTo "scheduler.pid" :=
  FilePath.leadsTo_join _ ⟨by decide, by decide, by decide, by decide⟩

theorem startTimeFile_leadsTo : paths.daemonFiles.startTimeFile.LeadsTo "scheduler.started" :=
  FilePath.leadsTo_join _ ⟨by decide, by decide, by decide, by decide⟩

theorem pidFile_ne_startTimeFile : paths.daemonFiles.pidFile ≠ paths.daemonFiles.startTimeFile := by
  intro heq
  have hname := paths.pidFile_leadsTo.unique (heq ▸ paths.startTimeFile_leadsTo)
  exact absurd hname (by decide)

def daemonRecords : List FilePath := [paths.daemonFiles.pidFile, paths.daemonFiles.startTimeFile]

variable {paths} in
theorem no_slash_of_mem {path : FilePath} (h : path ∈ paths.daemonRecords) :
    path.toList.getLast? ≠ some '/' := by
  simp only [daemonRecords, List.mem_cons, List.not_mem_nil, or_false] at h
  rcases h with rfl | rfl
  · exact paths.pidFile_leadsTo.no_slash
  · exact paths.startTimeFile_leadsTo.no_slash

end StatePaths

/-! ### Calls -/

namespace Machine

abbrev contract : Contract SystemCall.interface Machine := .ofHost reply

abbrev contractUnless (may : Halt → Prop) : Contract SystemCall.interface Machine :=
  .unless reply may

variable {m : Machine}

theorem keeps_call {c : SystemCall} {post : Machine → c.Reply → Prop}
    (h : post (m.reply c).2 (m.reply c).1) : Keeps contract post m (Procedure.call c) := by
  refine Program.keeps_call.mpr ⟨trivial, fun reply t hfollows => ?_⟩
  obtain ⟨rfl, rfl⟩ := Prod.mk.inj hfollows.symm
  exact h

/-- What a procedure comes to, where it can come to nothing else. -/
theorem perform_eq {α : Type} {p : Procedure α} {a : α} {next : Machine}
    (h : Keeps contract (fun t r => t = next ∧ r = a) m p) : m.perform p = some (a, next) := by
  obtain ⟨r, t, hperform, rfl, rfl⟩ := h.finish
  exact hperform

section

variable {ε α β : Type} {p : ExceptT ε Procedure α} {f : α → ExceptT ε Procedure β} {next : Machine}

theorem perform_except_bind {a : α} {r : Except ε β} {last : Machine}
    (h : m.perform p.run = some (.ok a, next)) (hf : next.perform (f a).run = some (r, last)) :
    m.perform (p >>= f).run = some (r, last) := by
  refine perform_eq (keeps_except_bind ((keeps_of_finish h).mono ?_))
  rintro t _ ⟨rfl, rfl⟩
  exact keeps_of_finish hf

theorem perform_except_bind_error {e : ε} (h : m.perform p.run = some (.error e, next)) :
    m.perform (p >>= f).run = some (.error e, next) := by
  refine perform_eq (keeps_except_bind ((keeps_of_finish h).mono ?_))
  rintro t _ ⟨rfl, rfl⟩
  exact ⟨rfl, rfl⟩

end

theorem keeps_read {path : FilePath} {post : Machine → Except SystemError String → Prop}
    (h : post m (m.files.read m.current path)) : Keeps contract post m (Procedure.read path) :=
  keeps_call h

theorem keeps_kind {path : FilePath} {post : Machine → Option NodeKind → Prop}
    (h : post m (m.files.kindAt? m.current path)) : Keeps contract post m (Procedure.kind path) :=
  keeps_call h

theorem keeps_canonicalize {path : FilePath} {post : Machine → Except SystemError FilePath → Prop}
    (h : post m (m.files.canonicalize m.current path)) :
    Keeps contract post m (Procedure.canonicalize path) := keeps_call h

theorem keeps_isAlive {pid : Nat} {post : Machine → Bool → Prop} (h : post m (m.isAlive pid)) :
    Keeps contract post m (Procedure.isAlive pid) := keeps_call h

theorem keeps_processId {post : Machine → Nat → Prop} (h : post m m.self) :
    Keeps contract post m Procedure.processId := keeps_call h

theorem keeps_now {post : Machine → Timestamp → Prop} (h : post m m.time) :
    Keeps contract post m Procedure.now := keeps_call h

theorem keeps_load (store : ScheduleStore)
    {post : Machine → Except ScheduleError (List Schedule) → Prop}
    (h : post m (store.loaded (m.files.read m.current store.path))) :
    Keeps contract post m store.load.run := by
  rw [ScheduleStore.load_run]
  refine ⟨trivial, fun reply t hfollows => ?_⟩
  obtain ⟨rfl, rfl⟩ := Prod.mk.inj hfollows.symm
  exact h

theorem files_signal (m : Machine) (pid : Nat) (t : Termination) :
    (m.signal pid t).files = m.files := by
  unfold signal
  split
  · split <;> rfl
  · rfl

theorem files_reap (m : Machine) (pid : Nat) : (m.reap pid).2.files = m.files := by
  unfold reap
  split
  · split <;> rfl
  · rfl

theorem changed_cases {change : Except SystemError FileTree}
    {post : Machine → Except SystemError Unit → Prop}
    (hok : ∀ files, change = .ok files → post { m with files } (.ok ()))
    (herror : ∀ e, change = .error e → post m (.error e)) :
    post (m.changed change).2 (m.changed change).1 := by
  cases hchange : change with
  | ok files => exact hok files hchange
  | error e => exact herror e hchange

theorem keeps_write {path : FilePath} {text : String}
    {post : Machine → Except SystemError Unit → Prop}
    (hok : ∀ files, m.files.write m.current m.time path (fun _ => text) = .ok files →
      post { m with files } (.ok ()))
    (herror : ∀ e, m.files.write m.current m.time path (fun _ => text) = .error e →
      post m (.error e)) : Keeps contract post m (Procedure.write path text) := by
  refine keeps_call ?_
  simp only [reply]
  exact changed_cases hok herror

theorem keeps_remove {path : FilePath} {post : Machine → Except SystemError Unit → Prop}
    (hok : ∀ files, m.files.remove m.current path = .ok files → post { m with files } (.ok ()))
    (herror : ∀ e, m.files.remove m.current path = .error e → post m (.error e)) :
    Keeps contract post m (Procedure.remove path) :=
  keeps_call (changed_cases hok herror)

theorem keeps_rename {source target : FilePath}
    {post : Machine → Except SystemError Unit → Prop}
    (hok : ∀ files, m.files.rename m.current source target = .ok files →
      post { m with files } (.ok ()))
    (herror : ∀ e, m.files.rename m.current source target = .error e → post m (.error e)) :
    Keeps contract post m (Procedure.rename source target) :=
  keeps_call (changed_cases hok herror)

theorem keeps_makeDirectories {path : FilePath}
    {post : Machine → Except SystemError Unit → Prop}
    (hok : ∀ files, m.files.makeDirectories m.current m.time path (path.names.length + 1) =
      .ok files → post { m with files } (.ok ()))
    (herror : ∀ e, m.files.makeDirectories m.current m.time path (path.names.length + 1) =
      .error e → post m (.error e)) : Keeps contract post m (Procedure.makeDirectories path) :=
  keeps_call (changed_cases hok herror)

end Machine

/-! ### Procedures -/

namespace Daemon

open FileTree (Spares Removes)
open Machine (keeps_read keeps_isAlive keeps_processId keeps_now keeps_write keeps_remove
  keeps_makeDirectories)
open ScheduleProcedure (keeps_request)

variable {m : Machine} {path : FilePath}

theorem keeps_removeFile (hslash : path.toList.getLast? ≠ some '/')
    {post : Machine → Except ScheduleError Unit → Prop}
    (hok : ∀ files, Removes m.current path m.files files → post { m with files } (.ok ()))
    (herror : ∀ cause, post m (.error (.io path cause))) :
    Keeps Machine.contract post m (removeFile path).run := by
  refine keeps_bind.mpr (keeps_remove (fun files hfiles => ?_) fun e he => ?_)
  · exact hok files (FileTree.removes_of_remove hslash hfiles)
  · cases e with
    | notFound => exact hok m.files (FileTree.removes_of_missing he)
    | _ => exact herror _

theorem keeps_makeDirectoryOf {post : Machine → Except ScheduleError Unit → Prop}
    (hok : ∀ files, Spares m.current [] m.files files → post { m with files } (.ok ()))
    (herror : ∀ path cause, post m (.error (.io path cause))) :
    Keeps Machine.contract post m (makeDirectoryOf path).run := by
  unfold makeDirectoryOf
  cases path.parent? with
  | none => exact hok m.files .refl
  | some directory =>
    exact keeps_request (keeps_makeDirectories
      (fun files hfiles => hok files (FileTree.spares_makeDirectories hfiles))
      fun e _ => herror _ _)

variable (paths : StatePaths)

/-- Looking for the daemon: a file that names no live process is removed. -/
theorem keeps_pid? {post : Machine → Except ScheduleError (Option Nat) → Prop}
    (herror : ∀ path cause, post m (.error (.io path cause)))
    (hmissing : m.files.read m.current paths.daemonFiles.pidFile = .error .notFound →
      post m (.ok none))
    (hstale : ∀ text files, m.files.read m.current paths.daemonFiles.pidFile = .ok text →
      (∀ pid, readPid? text = some pid → m.isAlive pid = false) →
      Removes m.current paths.daemonFiles.pidFile m.files files → post { m with files } (.ok none))
    (hlive : ∀ text pid, m.files.read m.current paths.daemonFiles.pidFile = .ok text →
      readPid? text = some pid → m.isAlive pid = true → post m (.ok (some pid))) :
    Keeps Machine.contract post m paths.daemonFiles.pid?.run := by
  have hslash := paths.pidFile_leadsTo.no_slash
  refine keeps_except_bind (keeps_lift (keeps_read ?_))
  cases hread : m.files.read m.current paths.daemonFiles.pidFile with
  | error e =>
    cases e with
    | notFound => exact hmissing hread
    | _ => exact herror _ _
  | ok text =>
    dsimp only
    cases hpid : readPid? text with
    | none =>
      refine keeps_except_bind (keeps_removeFile hslash (fun files hfiles => ?_) fun cause => ?_)
      · exact hstale text files hread (by simp [hpid]) hfiles
      · exact herror _ cause
    | some pid =>
      refine keeps_except_bind (keeps_lift (keeps_isAlive ?_))
      cases hlives : m.isAlive pid with
      | true => exact hlive text pid hread hpid hlives
      | false =>
        refine keeps_except_bind (keeps_removeFile hslash (fun files hfiles => ?_) fun cause => ?_)
        · refine hstale text files hread (fun other hother => ?_) hfiles
          obtain rfl : pid = other := Option.some.inj (hpid.symm.trans hother)
          exact hlives
        · exact herror _ cause

/-- Recording this process: a refusal leaves all other files as they are, and the number of the
process stays where it was written. -/
theorem keeps_savePid {post : Machine → Except ScheduleError Unit → Prop}
    (hunwritten : ∀ files path cause, Spares m.current [] m.files files →
      post { m with files } (.error (.io path cause)))
    (huntimed : ∀ files path cause, Spares m.current [paths.daemonFiles.pidFile] m.files files →
      files.read m.current paths.daemonFiles.pidFile = .ok (toString m.self) →
      post { m with files } (.error (.io path cause)))
    (hok : ∀ files, Spares m.current paths.daemonRecords m.files files →
      files.read m.current paths.daemonFiles.pidFile = .ok (toString m.self) →
      post { m with files } (.ok ())) :
    Keeps Machine.contract post m paths.daemonFiles.savePid.run := by
  have hpid := paths.pidFile_leadsTo
  have hstart := paths.startTimeFile_leadsTo
  refine keeps_except_bind (keeps_makeDirectoryOf (fun made hmade => ?_) fun path cause => ?_)
  · refine keeps_except_bind (keeps_lift (keeps_processId ?_))
    refine keeps_except_bind (keeps_request (keeps_write (fun files hfiles => ?_) fun e _ => ?_))
    · obtain ⟨hspares, old, hread⟩ := FileTree.write_eq_ok hpid.no_slash hfiles
      have hnumber : Spares m.current [paths.daemonFiles.pidFile] m.files files :=
        (hmade.mono (by simp)).trans (by simpa using hpid.no_slash) hspares
      refine keeps_except_bind (keeps_lift (keeps_now ?_))
      refine keeps_request (keeps_write (fun timed htimed => ?_) fun e _ => ?_)
      · obtain ⟨hspares, -⟩ := FileTree.write_eq_ok hstart.no_slash htimed
        refine hok timed ((hnumber.mono ?_).trans ?_ (hspares.mono ?_)) ?_
        · simp [StatePaths.daemonRecords]
        · exact fun path => StatePaths.no_slash_of_mem
        · simp [StatePaths.daemonRecords]
        · refine hspares.read hpid ?_ hread
          simpa using ⟨"scheduler.started", by decide, hstart⟩
      · exact huntimed files _ _ hnumber hread
    · exact hunwritten made _ _ hmade
  · exact hunwritten m.files path cause .refl

theorem keeps_removePid {post : Machine → Except ScheduleError Unit → Prop}
    (hok : ∀ files, files.read m.current paths.daemonFiles.pidFile = .error .notFound →
      files.read m.current paths.daemonFiles.startTimeFile = .error .notFound →
      Spares m.current paths.daemonRecords m.files files → post { m with files } (.ok ()))
    (herror : ∀ files path cause, Spares m.current paths.daemonRecords m.files files →
      post { m with files } (.error (.io path cause))) :
    Keeps Machine.contract post m paths.daemonFiles.removePid.run := by
  have hpid := paths.pidFile_leadsTo.no_slash
  have hstart := paths.startTimeFile_leadsTo.no_slash
  refine keeps_except_bind (keeps_removeFile hpid (fun files hfiles => ?_) fun cause => ?_)
  · have hspares : Spares m.current paths.daemonRecords m.files files :=
      hfiles.spares.mono (by simp [StatePaths.daemonRecords])
    refine keeps_removeFile hstart (fun rest hrest => ?_) fun cause => herror files _ cause hspares
    refine hok rest (hrest.stays _ hpid hfiles.missing) hrest.missing (hspares.trans ?_ ?_)
    · exact fun path => StatePaths.no_slash_of_mem
    · exact hrest.spares.mono (by simp [StatePaths.daemonRecords])
  · exact herror m.files _ cause .refl

end Daemon

end Runbook
