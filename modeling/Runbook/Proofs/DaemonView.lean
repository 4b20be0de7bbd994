import Runbook.Scheduler.Basic
import Runbook.Proofs.SchedulingRules
import Runbook.Proofs.StoreContract

/-!
What a process knows of the daemon while it works on a request. Once it has read the daemon's file
there is at most one process that may be the daemon, and none once that one was found dead or was
killed. Main statements: a process writes its number into the file only if no other process may be
the daemon, and removes the file only if none may be.
-/

namespace Runbook

open Program (keeps_except_bind)

/-- How far a process is with a request: it has not looked for the daemon; it has, and may act on
what it saw; it has recorded itself. -/
inductive DaemonStage where
  | outside | engaged | recorded
  deriving DecidableEq, Repr

namespace DaemonStage

/-- The stage after a call: a reading of the daemon's file engages a process, and a number that is
written there records it. -/
def after (daemon : Daemon) (stage : DaemonStage) : (c : SchedulerCall) → c.Reply → DaemonStage
  | .system (.read path), _ =>
    if path = daemon.pidFile ∧ stage = .outside then .engaged else stage
  | .system (.write path _), .ok _ =>
    if path = daemon.pidFile ∧ stage = .engaged then .recorded else stage
  | _, _ => stage

end DaemonStage

/-- What a process knows: after it has looked, the only process that may be the daemon. -/
inductive DaemonView where
  | outside
  | engaged (suspect : Option Nat)
  | recorded
  deriving DecidableEq, Repr

namespace DaemonView

def stage : DaemonView → DaemonStage
  | .outside => .outside
  | .engaged _ => .engaged
  | .recorded => .recorded

def suspectOf : Except SystemError String → Option Nat
  | .ok text => Daemon.readPid? text
  | .error _ => none

def without (pid : Nat) : DaemonView → DaemonView
  | .engaged suspect => .engaged (suspect.filter fun p => p ≠ pid)
  | v => v

def after (daemon : Daemon) (v : DaemonView) : (c : SchedulerCall) → c.Reply → DaemonView
  | .system (.read path), reply =>
    if path = daemon.pidFile ∧ v.stage = .outside then .engaged (suspectOf reply) else v
  | .system (.write path _), .ok _ =>
    if path = daemon.pidFile ∧ v.stage = .engaged then .recorded else v
  | .system (.isAlive pid), alive => if alive then v else v.without pid
  | .system (.signal pid .forced), _ => v.without pid
  | _, _ => v

@[simp] theorem without_suspect (pid : Nat) :
    without pid (.engaged (some pid)) = .engaged none := by simp [without]

@[simp] theorem stage_without (v : DaemonView) (pid : Nat) : (v.without pid).stage = v.stage := by
  cases v <;> rfl

/-- A process may be the daemon for all that is known. -/
def Suspects (v : DaemonView) (pid : Nat) : Prop :=
  ∀ suspect, v = .engaged suspect → suspect = some pid

theorem suspects_of_stage {v : DaemonView} (h : v.stage ≠ .engaged) (pid : Nat) :
    v.Suspects pid := by
  rintro suspect rfl
  exact absurd rfl h

theorem Suspects.without {v : DaemonView} {pid other : Nat} (h : v.Suspects pid)
    (hne : pid ≠ other) : (v.without other).Suspects pid := by
  cases v with
  | engaged suspect =>
    obtain rfl := h suspect rfl
    simp [DaemonView.without, Suspects, hne]
  | _ => exact suspects_of_stage (by simp [DaemonView.without, stage]) pid

theorem stage_after (daemon : Daemon) (v : DaemonView) (c : SchedulerCall) (reply : c.Reply) :
    (v.after daemon c reply).stage = v.stage.after daemon c reply := by
  cases c with
  | system call =>
    cases call with
    | read path =>
      simp only [after, DaemonStage.after]
      split <;> rfl
    | write path text =>
      cases (reply : Except SystemError Unit) with
      | error e => rfl
      | ok u =>
        simp only [after, DaemonStage.after]
        split <;> rfl
    | isAlive pid =>
      simp only [after, DaemonStage.after]
      split
      · rfl
      · exact stage_without v pid
    | signal pid t =>
      cases t with
      | graceful => rfl
      | forced => exact stage_without v pid
    | _ => rfl
  | notice n => rfl
  | execute isSilent workflow given => rfl

/-- What a process may do with what it knows: the daemon's file is written with the own number if no
other process may be the daemon, and removed if none may be. -/
def Allows (daemon : Daemon) (process : Nat) (v : DaemonView) : SchedulerCall → Prop
  | .system (.write path text) => path = daemon.startTimeFile ∨
    path = daemon.pidFile ∧ text = toString process ∧
      (v = .engaged none ∨ v = .engaged (some process))
  | .system (.remove path) => path = daemon.startTimeFile ∨ path = daemon.pidFile ∧ v = .engaged none
  | .system (.read _) => True
  | .system (.makeDirectories _) => True
  | .system (.modified _) => True
  | .system .processId => True
  | .system (.isAlive _) => True
  | .system (.signal _ _) => True
  | .system (.sleep _) => True
  | .system .now => True
  | .notice _ => True
  | _ => False

/-- A process is told its own number. -/
def Tells (process : Nat) : (c : SchedulerCall) → c.Reply → Prop
  | .system .processId, reply => reply = process
  | _, _ => True

def contract (daemon : Daemon) (process : Nat) : Contract SchedulerCall.interface DaemonView where
  Allows := Allows daemon process
  Follows v c reply w := Tells process c reply ∧ w = v.after daemon c reply
  MayHalt _ why := why = .overflow

variable {daemon : Daemon} {process : Nat} {v : DaemonView}

theorem keeps_call {c : SystemCall} {post : DaemonView → c.Reply → Prop}
    (hallows : Allows daemon process v (.system c))
    (hpost : ∀ reply : c.Reply, Tells process (.system c) reply →
      post (v.after daemon (.system c) reply) reply) :
    Program.Keeps (contract daemon process).onSystem post v (Procedure.call c) := by
  refine Program.keeps_call.mpr ⟨hallows, fun reply w hw => ?_⟩
  obtain ⟨htells, rfl⟩ := hw
  exact hpost reply htells

/-! ### Calls -/

theorem keeps_read {path : FilePath} {post : DaemonView → Except SystemError String → Prop}
    (h : ∀ reply, post (v.after daemon (.system (.read path)) reply) reply) :
    Program.Keeps (contract daemon process).onSystem post v (Procedure.read path) :=
  keeps_call trivial fun reply _ => h reply

theorem keeps_isAlive {pid : Nat} {post : DaemonView → Bool → Prop} (hlives : post v true)
    (hdead : post (v.without pid) false) :
    Program.Keeps (contract daemon process).onSystem post v (Procedure.isAlive pid) := by
  refine keeps_call trivial fun alive _ => ?_
  cases (alive : Bool) with
  | false => exact hdead
  | true => exact hlives

theorem keeps_write {path : FilePath} {text : String}
    {post : DaemonView → Except SystemError Unit → Prop}
    (hallows : Allows daemon process v (.system (.write path text)))
    (hok : post (v.after daemon (.system (.write path text)) (.ok ())) (.ok ()))
    (herror : ∀ e, post v (.error e)) :
    Program.Keeps (contract daemon process).onSystem post v (Procedure.write path text) := by
  refine keeps_call hallows fun reply _ => ?_
  cases (reply : Except SystemError Unit) with
  | error e => exact herror e
  | ok u => exact hok

theorem keeps_remove {path : FilePath} {post : DaemonView → Except SystemError Unit → Prop}
    (hallows : Allows daemon process v (.system (.remove path))) (h : ∀ reply, post v reply) :
    Program.Keeps (contract daemon process).onSystem post v (Procedure.remove path) :=
  keeps_call hallows fun reply _ => h reply

theorem keeps_makeDirectories {path : FilePath}
    {post : DaemonView → Except SystemError Unit → Prop} (h : ∀ reply, post v reply) :
    Program.Keeps (contract daemon process).onSystem post v (Procedure.makeDirectories path) :=
  keeps_call trivial fun reply _ => h reply

theorem keeps_processId {post : DaemonView → Nat → Prop} (h : post v process) :
    Program.Keeps (contract daemon process).onSystem post v Procedure.processId := by
  refine keeps_call trivial fun reply hreply => ?_
  obtain rfl : reply = process := hreply
  exact h

theorem keeps_now {post : DaemonView → Timestamp → Prop} (h : ∀ t, post v t) :
    Program.Keeps (contract daemon process).onSystem post v Procedure.now :=
  keeps_call trivial fun reply _ => h reply

theorem keeps_signal {pid : Nat} {t : Termination} {post : DaemonView → Unit → Prop}
    (h : post (v.after daemon (.system (.signal pid t)) ()) ()) :
    Program.Keeps (contract daemon process).onSystem post v (Procedure.signal pid t) :=
  keeps_call trivial fun _ _ => h

/-! ### Procedures -/

open ScheduleProcedure (keeps_request)
open Program (keeps_lift)

theorem keeps_removeFile {path : FilePath} {post : DaemonView → Except ScheduleError Unit → Prop}
    (hallows : Allows daemon process v (.system (.remove path))) (h : ∀ r, post v r) :
    Program.Keeps (contract daemon process).onSystem post v (Daemon.removeFile path).run := by
  refine Program.keeps_bind.mpr (keeps_remove hallows fun reply => ?_)
  cases reply with
  | ok u => exact h _
  | error e => cases e <;> exact h _

theorem keeps_makeDirectoryOf {path : FilePath}
    {post : DaemonView → Except ScheduleError Unit → Prop} (h : ∀ r, post v r) :
    Program.Keeps (contract daemon process).onSystem post v (Daemon.makeDirectoryOf path).run := by
  unfold Daemon.makeDirectoryOf
  cases path.parent? with
  | none => exact h _
  | some directory =>
    refine keeps_request (keeps_makeDirectories fun reply => ?_)
    cases reply <;> exact h _

theorem keeps_pid? {post : DaemonView → Except ScheduleError (Option Nat) → Prop}
    (herror : ∀ e, post (.engaged none) (.error e)) (hnone : post (.engaged none) (.ok none))
    (hsome : ∀ pid, post (.engaged (some pid)) (.ok (some pid))) :
    Program.Keeps (contract daemon process).onSystem post .outside daemon.pid?.run := by
  refine keeps_except_bind (keeps_lift (keeps_read fun reply => ?_))
  have hview : after daemon .outside (.system (.read daemon.pidFile)) reply =
      .engaged (suspectOf reply) := by simp [after, stage]
  rw [hview]
  cases reply with
  | error e =>
    cases e with
    | notFound => exact hnone
    | _ => exact herror _
  | ok text =>
    dsimp only [suspectOf]
    cases hpid : Daemon.readPid? text with
    | none =>
      refine keeps_except_bind (keeps_removeFile (.inr ⟨rfl, rfl⟩) fun r => ?_)
      cases r with
      | ok u => exact hnone
      | error e => exact herror e
    | some pid =>
      refine keeps_except_bind (keeps_lift (keeps_isAlive (hsome pid) ?_))
      rw [without_suspect]
      refine keeps_except_bind (keeps_removeFile (.inr ⟨rfl, rfl⟩) fun r => ?_)
      cases r with
      | ok u => exact hnone
      | error e => exact herror e

/-- A process that may write the daemon's file has recorded itself when it has done so. -/
theorem keeps_savePid {suspect : Option Nat} (hsuspect : suspect = none ∨ suspect = some process)
    {post : DaemonView → Except ScheduleError Unit → Prop} (hok : post .recorded (.ok ()))
    (herror : ∀ w e, post w (.error e)) :
    Program.Keeps (contract daemon process).onSystem post (.engaged suspect) daemon.savePid.run := by
  refine keeps_except_bind (keeps_makeDirectoryOf fun r => ?_)
  cases r with
  | error e => exact herror _ e
  | ok u =>
    refine keeps_except_bind (keeps_lift (keeps_processId ?_))
    refine keeps_except_bind (keeps_request (keeps_write ?_ ?_ fun e => herror _ _))
    · rcases hsuspect with rfl | rfl
      · exact .inr ⟨rfl, rfl, .inl rfl⟩
      · exact .inr ⟨rfl, rfl, .inr rfl⟩
    · have hview : after daemon (.engaged suspect)
          (.system (.write daemon.pidFile (toString process))) (.ok ()) = .recorded := by
        simp [after, stage]
      rw [hview]
      refine keeps_except_bind (keeps_lift (keeps_now fun now => ?_))
      refine keeps_request (keeps_write (.inl rfl) ?_ fun e => herror _ _)
      simpa [after, stage] using hok

theorem keeps_removePid {post : DaemonView → Except ScheduleError Unit → Prop}
    (h : ∀ r, post (.engaged none) r) :
    Program.Keeps (contract daemon process).onSystem post (.engaged none) daemon.removePid.run := by
  refine keeps_except_bind (keeps_removeFile (.inr ⟨rfl, rfl⟩) fun r => ?_)
  cases r with
  | error e => exact h _
  | ok u => exact keeps_removeFile (.inl rfl) h

theorem keeps_status {post : DaemonView → Except ScheduleError DaemonStatus → Prop}
    (h : ∀ w r, post w r) :
    Program.Keeps (contract daemon process).onSystem post .outside daemon.status.run := by
  refine keeps_except_bind (keeps_pid? (fun e => h _ _) (h _ _) fun pid => ?_)
  refine keeps_except_bind (keeps_lift (Program.keeps_bind.mpr (keeps_read fun reply => ?_)))
  have hmodified : ∀ w : DaemonView, Program.Keeps (contract daemon process).onSystem
      (fun w start => Program.Keeps (contract daemon process).onSystem post w
        (pure ⟨some pid, start⟩ : ScheduleProcedure DaemonStatus).run) w
      (Procedure.modified daemon.pidFile) := fun w => keeps_call trivial fun reply _ => h _ _
  cases reply with
  | error e => exact hmodified _
  | ok text =>
    dsimp only
    cases Timestamp.readStrict? (trimmed text) with
    | none => exact hmodified _
    | some start => exact h _ _

/-- The daemon that was found is dead before its files are removed. -/
theorem keeps_stop (grace : Duration) {post : DaemonView → Except ScheduleError Bool → Prop}
    (h : ∀ w r, post w r) :
    Program.Keeps (contract daemon process).onSystem post .outside (daemon.stop grace).run := by
  refine keeps_except_bind (keeps_pid? (fun e => h _ _) (h _ _) fun pid => ?_)
  have hremove : Program.Keeps (contract daemon process).onSystem post (.engaged none) (do
      daemon.removePid
      return true : ScheduleProcedure Bool).run := by
    refine keeps_except_bind (keeps_removePid fun r => ?_)
    cases r <;> exact h _ _
  refine keeps_except_bind (keeps_lift (keeps_signal ?_))
  refine keeps_except_bind (keeps_lift (keeps_call trivial fun _ _ => ?_))
  refine keeps_except_bind (keeps_lift (keeps_isAlive ?_ ?_))
  · refine keeps_except_bind (keeps_lift (keeps_signal ?_))
    change Program.Keeps _ _ (without pid (.engaged (some pid))) _
    rw [without_suspect]
    exact hremove
  · change Program.Keeps _ _ (without pid (.engaged (some pid))) _
    rw [without_suspect]
    exact hremove

/-! ### The work of the scheduler -/

open CheckedScheduling (keeps_bind keeps_get keeps_modify)

variable {σ : Scheduler}

/-- Nothing is learnt from what is shown, nor from a look at the clock. -/
theorem isIdle (Q : DaemonView → Prop) : (contract daemon process).IsIdle Q where
  now v hv := ⟨trivial, fun now w hw => by
    obtain ⟨-, rfl⟩ := hw
    exact hv⟩
  notice v n hv := ⟨trivial, fun u w hw => by
    obtain ⟨-, rfl⟩ := hw
    exact hv⟩

/-- Whatever file keeps the schedules, a process that has recorded itself stays so. -/
theorem keeps_load (store : ScheduleStore)
    {post : DaemonView → Except ScheduleError (List Schedule) → Prop}
    (h : ∀ w r, (v = .recorded → w = .recorded) → post w r) :
    Program.Keeps (contract daemon process).onSystem post v store.load.run := by
  rw [ScheduleStore.load_run]
  refine ⟨trivial, fun reply w hw => h w _ fun hv => ?_⟩
  obtain ⟨-, rfl⟩ := hw
  subst hv
  simp [after, stage]

theorem keeps_reload {post : DaemonView → Scheduler → Except ScheduleError StartReport → Prop}
    (h : ∀ w tasks r, (v = .recorded → w = .recorded) → post w { σ with tasks } r) :
    Scheduling.Keeps (contract daemon process) post v σ Scheduler.reload.run := by
  refine Scheduler.keeps_reload (isIdle fun w => v = .recorded → w = .recorded)
    (keeps_load σ.store fun w r hw => ?_) fun w tasks report hw => h w tasks _ hw
  cases r with
  | ok schedules => exact ⟨hw, fun _ _ _ => rfl⟩
  | error e => exact h w [] _ hw

theorem keeps_start (asDaemon : Bool)
    {post : DaemonView → Scheduler → Except ScheduleError StartReport → Prop}
    (hdaemon : σ.daemon = daemon)
    (h : ∀ w tasks r, (∀ report, r = .ok report → asDaemon = true → w = .recorded) →
      post w { σ with tasks } r) :
    Scheduling.Keeps (contract daemon process) post .outside σ (Scheduler.start asDaemon).run := by
  obtain ⟨store, home, tasks, isShutDown⟩ := σ
  obtain rfl : home = daemon := hdaemon
  have hreload : ∀ v : DaemonView, (asDaemon = true → v = .recorded) →
      Scheduling.Keeps (contract home process) post v ⟨store, home, tasks, isShutDown⟩ (do
        let report ← Scheduler.reload
        Scheduling.notify (.started asDaemon process)
        return report : CheckedScheduling StartReport).run := by
    intro v hv
    refine keeps_bind (keeps_reload fun w tasks r hw => ?_)
    cases r with
    | error e => exact h w tasks _ fun report hr => by cases hr
    | ok report =>
      refine keeps_bind (CheckedScheduling.keeps_lift
        (Scheduler.keeps_notify (isIdle fun u => u = w) rfl fun u hu => ?_))
      exact h u tasks _ fun _ _ hasDaemon => hu.trans (hw (hv hasDaemon))
  have henter : ∀ suspect : Option Nat, suspect = none ∨ suspect = some process →
      Scheduling.Keeps (contract home process) post (.engaged suspect) ⟨store, home, tasks, isShutDown⟩
        (Scheduler.enter home process asDaemon).run := by
    intro suspect hsuspect
    refine keeps_bind (CheckedScheduling.keeps_lift
      (Scheduler.keeps_notify (isIdle fun u => u = .engaged suspect) rfl fun u hu => ?_))
    subst hu
    cases asDaemon with
    | false => exact hreload _ fun h => by cases h
    | true =>
      refine keeps_bind (CheckedScheduling.keeps_procedure.mpr (keeps_savePid hsuspect ?_ ?_))
      · exact hreload _ fun _ => rfl
      · exact fun w e => h w tasks _ fun report hr => by cases hr
  refine keeps_bind (keeps_get.mpr ?_)
  refine keeps_bind (CheckedScheduling.keeps_lift
    (Scheduling.keeps_procedure.mpr (keeps_processId ?_)))
  refine keeps_bind (CheckedScheduling.keeps_procedure.mpr (keeps_pid? ?_ ?_ ?_))
  · exact fun e => h _ tasks _ fun report hr => by cases hr
  · exact henter none (.inl rfl)
  · intro pid
    dsimp only
    split
    next hne => exact h _ tasks _ fun report hr => by cases hr
    next hself => exact henter (some pid) (.inr (by simpa using hself))

theorem keeps_shutDown (asDaemon : Bool)
    {post : DaemonView → Scheduler → Except ScheduleError Unit → Prop}
    (hdaemon : σ.daemon = daemon) (hview : asDaemon = true → v = .engaged none)
    (h : ∀ w τ r, τ.daemon = daemon → post w τ r) :
    Scheduling.Keeps (contract daemon process) post v σ (Scheduler.shutDown asDaemon).run := by
  obtain ⟨store, home, tasks, isShutDown⟩ := σ
  obtain rfl : home = daemon := hdaemon
  refine keeps_bind (keeps_get.mpr ?_)
  dsimp only
  split
  next hdone => exact h _ _ _ rfl
  next hrunning =>
    refine keeps_bind (keeps_modify.mpr ?_)
    refine keeps_bind (CheckedScheduling.keeps_lift
      (Scheduler.keeps_notify (isIdle fun u => u = v) rfl fun u hu => ?_))
    subst hu
    refine keeps_bind (keeps_modify.mpr ?_)
    cases asDaemon with
    | false => exact h _ _ _ rfl
    | true =>
      obtain rfl := hview rfl
      refine keeps_bind (keeps_get.mpr ?_)
      exact CheckedScheduling.keeps_procedure.mpr (keeps_removePid fun r => h _ _ r rfl)

end DaemonView

end Runbook
