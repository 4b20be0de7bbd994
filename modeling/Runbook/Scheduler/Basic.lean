import Runbook.Daemon
import Runbook.Workflow.Reader

/-!
The scheduler: every enabled schedule has a task that waits for its next firing, runs its workflow,
and waits again. What it shows and what it runs is asked of a host.
-/

namespace Runbook

inductive SchedulerNotice where
  | starting (asDaemon : Bool)
  | noneEnabled
  | registered (schedule : Schedule) (zone : Zone) (next : Option Timestamp)
  | rejected (id reason : String)
  | started (asDaemon : Bool) (process : Nat)
  | runStarted (name : String) (profile : Option String)
  | runCompleted (name : String)
  | runFailed (name error : String)
  | stopping (asDaemon : Bool)
  deriving DecidableEq, Repr

/-- What the scheduler asks: something of the system, that something is shown, or that a workflow is
run. -/
inductive SchedulerCall where
  | system (call : SystemCall)
  | notice (notice : SchedulerNotice)
  | execute (isSilent : Bool) (workflow : Workflow) (given : Bindings String)

/-- A run that failed has a message; one that an overflow stops has no outcome. -/
abbrev SchedulerCall.Reply : SchedulerCall → Type
  | .system call => call.Reply
  | .notice _ => Unit
  | .execute .. => Computed (Option String)

abbrev SchedulerCall.interface : Interface := ⟨SchedulerCall, SchedulerCall.Reply⟩

/-- A schedule with its expression and zone, and how long it waits for its next firing, if there is
one. -/
structure ScheduledTask where
  schedule : Schedule
  cron : Cron
  zone : Zone
  wait : Option Duration
  deriving DecidableEq, Repr

structure Scheduler where
  store : ScheduleStore
  daemon : Daemon
  tasks : Bindings ScheduledTask
  isShutDown : Bool
  deriving DecidableEq, Repr

/-- Which schedules have a task, and which have none for what reason. -/
structure StartReport where
  registered : List String
  rejected : List (String × String)
  deriving DecidableEq, Repr

def Scheduler.create (store : ScheduleStore) (daemon : Daemon) : Scheduler :=
  ⟨store, daemon, [], false⟩

abbrev Scheduling (α : Type) := StateT Scheduler (Program SchedulerCall.interface) α

/-- A part that may come to an error; what it did before stays. -/
abbrev CheckedScheduling (α : Type) := ExceptT ScheduleError (StateT Scheduler
  (Program SchedulerCall.interface)) α

namespace Scheduling

def call (c : SchedulerCall) : Scheduling c.Reply :=
  StateT.lift (Program.call (I := SchedulerCall.interface) c)

def procedure {α : Type} (p : Procedure α) : Scheduling α :=
  StateT.lift (p.interpret fun c =>
    Program.call (I := SchedulerCall.interface) (.system c))

def computed {α : Type} (c : Computed α) : Scheduling α := StateT.lift (Program.computed c)

def notify (n : SchedulerNotice) : Scheduling Unit := call (.notice n)

end Scheduling

def CheckedScheduling.procedure {α : Type} (p : ScheduleProcedure α) : CheckedScheduling α :=
  ExceptT.mk (Scheduling.procedure p.run)

namespace Scheduler

open Scheduling

/-! ### Runs -/

/-- The workflow of a schedule with the values for its run, or why there is none. -/
def prepareRun (s : Schedule) : Scheduling (Except String (Workflow × Bindings String)) := do
  match ← procedure (Workflow.load s.workflowPath) with
  | .error e => return .error (s!"Failed to load {s.workflowPath}: " ++ e.fullMessage)
  | .ok workflow =>
    let given := workflow.runVariables s.profile []
    return (given.map (workflow, ·)).mapError WorkflowError.fullMessage

def announce (s : Schedule) (n : SchedulerNotice) : Scheduling Unit :=
  if s.isSilent then return () else Scheduling.notify n

/-- Concludes a run. Only one that succeeds is noted in the store; an error of the store is not one
of the run. -/
def conclude (s : Schedule) : Option String → Scheduling Unit
  | some reason => announce s (.runFailed s.displayName reason)
  | none => do
    let now ← procedure Procedure.now
    let _ ← procedure ((← get).store.recordRun s.id now).run
    announce s (.runCompleted s.displayName)

/-- Runs the workflow of a schedule. An overflow in the run ends this too. -/
def runSchedule (s : Schedule) : Scheduling (Computed Unit) := do
  announce s (.runStarted s.displayName s.profile)
  let failure? ← match ← prepareRun s with
    | .error reason => pure (.ok (some reason))
    | .ok (workflow, given) => call (.execute s.isSilent workflow given)
  match failure? with
  | .ok failure? => Except.ok <$> conclude s failure?
  | .error e => return .error e

/-! ### Tasks -/

/-- The time until the next firing, if there is one. -/
def waitOf (cron : Cron) (zone : Zone) (now : Timestamp) : Option Duration :=
  (cron.next? zone now).map now.durationUntil

def register (s : Schedule) : CheckedScheduling Unit := do
  let cron ← ExceptT.mk (computed (Cron.parse s.cron))
  let zone ← (Zone.resolve s.timezone : Except ScheduleError Zone)
  let now ← (procedure Procedure.now : Scheduling Timestamp)
  Scheduling.notify (.registered s zone (cron.next? zone now))
  let task : ScheduledTask := ⟨s, cron, zone, waitOf cron zone now⟩
  modify fun state => { state with tasks := state.tasks.bind s.id task }

/-- Registers schedules in turn; one that is refused is shown with the reason. -/
def registerAll : List Schedule → Scheduling StartReport
  | [] => return ⟨[], []⟩
  | s :: rest => do
    let result ← (register s).run
    match result with
    | .ok () =>
      let report ← registerAll rest
      return { report with registered := s.id :: report.registered }
    | .error e =>
      Scheduling.notify (.rejected s.id e.message)
      let report ← registerAll rest
      return { report with rejected := (s.id, e.message) :: report.rejected }

/-- Gives tasks to the schedules that are enabled now, in the place of all tasks before. -/
def reload : CheckedScheduling StartReport := do
  modify fun state => { state with tasks := [] }
  let schedules ← CheckedScheduling.procedure (← get).store.load
  let enabled := schedules.filter Schedule.enabled
  if enabled.isEmpty then Scheduling.notify .noneEnabled
  registerAll enabled

/-- The names of the schedules that will fire again, in order. -/
def active (s : Scheduler) : List String :=
  Bindings.names (s.tasks.filter fun task => task.2.wait.isSome)

/-- Lets a task wait: if it has waited long enough it runs its workflow, and waits for the next
firing after that, unless an overflow stops it. The time since `mark`, from which all waits are
counted, is added to its wait. -/
def awaken (mark : Timestamp) (elapsed : Duration) (task : ScheduledTask) :
    Scheduling (Option Duration) := do
  match task.wait with
  | none => return none
  | some wait =>
    if wait.nanoseconds ≤ elapsed.nanoseconds then
      match ← runSchedule task.schedule with
      | .error _ => return none
      | .ok () =>
        let now ← procedure Procedure.now
        let since := mark.durationUntil now
        return (waitOf task.cron task.zone now).map fun next =>
          ⟨since.nanoseconds + next.nanoseconds⟩
    else return some ⟨wait.nanoseconds - elapsed.nanoseconds⟩

/-- Lets time pass: each task that has waited long enough runs its workflow once. From then on waits
are counted from the time of the call. -/
def advance (elapsed : Duration) : Scheduling Unit := do
  let mark ← procedure Procedure.now
  for (id, task) in (← get).tasks do
    let wait ← awaken mark elapsed task
    modify fun state => { state with
      tasks := if state.tasks.isBound id then state.tasks.bind id { task with wait }
        else state.tasks }

/-- The time until the first of the next firings. -/
def nextWait? (s : Scheduler) : Option Duration :=
  ((s.tasks.filterMap fun task => task.2.wait).map Duration.nanoseconds).min?.map Duration.mk

/-! ### Starting and stopping -/

/-- Starts the scheduler, unless another live process is the daemon. -/
def start (asDaemon : Bool) : CheckedScheduling StartReport := do
  let daemon := (← get).daemon
  let process ← (procedure Procedure.processId : Scheduling Nat)
  if let some pid ← CheckedScheduling.procedure daemon.pid? then
    if pid ≠ process then throw (.alreadyRunning pid)
  Scheduling.notify (.starting asDaemon)
  if asDaemon then CheckedScheduling.procedure daemon.savePid
  let report ← reload
  Scheduling.notify (.started asDaemon process)
  return report

/-- Ends all tasks; a daemon removes its files. Only the first time anything is done. -/
def shutDown (asDaemon : Bool) : CheckedScheduling Unit := do
  if (← get).isShutDown then return ()
  modify fun state => { state with isShutDown := true }
  Scheduling.notify (.stopping asDaemon)
  modify fun state => { state with tasks := [] }
  if asDaemon then CheckedScheduling.procedure (← get).daemon.removePid

def stopGrace : Duration := .ofSeconds 1

/-- Stops a daemon that runs in another process; false if there is none. -/
def stopDaemon : CheckedScheduling Bool := do
  CheckedScheduling.procedure ((← get).daemon.stop stopGrace)

end Scheduler

end Runbook
