import Runbook.Word
import Runbook.Schedule.Adding
import Runbook.Console.CommandLine
import Runbook.Console.Failure

/-!
The commands on schedules, and those on the scheduler that runs them.
-/

namespace Runbook.Console

open Commanding

/-! ### Schedules -/

namespace ScheduleCommand

/-- Says that a running daemon does not know of a change. -/
def hintRestart (daemon : Daemon) : Commanding Unit := do
  if ← onSchedules daemon.isRunning then say "Restart the scheduler daemon to apply the change."

def addFile (store : ScheduleStore) (file : FilePath) : Commanding Unit := do
  let report ← onSchedules (store.addFile file)
  for s in report.added do say s!"✓ Added schedule {s.displayName} [{s.id}] {s.cron}"
  for (name, reason) in report.rejected do complain s!"✗ {name}: {reason}"
  if report.added.isEmpty then throw .nothingAdded

def listAll (store : ScheduleStore) : Commanding Unit := do
  let schedules ← onSchedules store.load
  if schedules.isEmpty then say "No schedules."
  for s in schedules do
    for line in s.listing do say line
    if s.enabled then
      let next ← computed (s.nextRunText (← procedure Procedure.now))
      say ("    next run: " ++ next)

def removeOne (scope : CommandScope) (id : String) : Commanding Unit := do
  if ← onSchedules (scope.schedules.remove id) then
    say s!"✓ Schedule {id} removed"
    hintRestart scope.daemon
  else throw (.schedule (.notFound id))

def toggleOne (scope : CommandScope) (id : String) : Commanding Unit := do
  let s ← onSchedules (scope.schedules.toggle id)
  say s!"✓ Schedule {s.displayName} {s.stateText}"
  hintRestart scope.daemon

/-- Says whether the daemon runs and how many schedules there are. -/
def tellStatus (scope : CommandScope) : Commanding Unit := do
  let status ← onSchedules scope.daemon.status
  match status.pid with
  | some pid => for line in status.lines pid (← procedure Procedure.now) do say line
  | none =>
    say "Scheduler daemon is not running"
    if let some log ← procedure scope.daemon.errors? then say ("Last startup errors:\n" ++ log)
  let schedules ← onSchedules scope.schedules.load
  let enabled := schedules.filter Schedule.enabled
  say s!"Schedules: {enabled.length} enabled, {schedules.length} total"

/-! ### The scheduler -/

/-- Makes a call of the scheduler. A daemon shows nothing. -/
def makeCall (scope : CommandScope) : (c : SchedulerCall) → Interaction c.Reply
  | .system c => Interaction.call (.system c)
  | .notice n => if scope.invocation.isDaemon then return () else Interaction.tell n.lines
  | .execute isSilent w given => do
    let place := scope.runPlace (isSilent || scope.invocation.isDaemon)
    return Run.failure <$> (← runWorkflow place scope.settings.backoff w given)

def conduct {α : Type} (scope : CommandScope) (work : Scheduling α) (s : Scheduler) :
    Interaction (α × Scheduler) :=
  (work.run s).interpret (makeCall scope)

/-- Runs what is due, until the program is told to stop. The waits of the scheduler are counted from
`mark` on. -/
def serve (scope : CommandScope) (mark : Timestamp) (s : Scheduler) : Nat → Interaction Scheduler
  | 0 => .unbounded
  | turns + 1 => do
    let passed := mark.durationUntil (← Interaction.procedure Procedure.now)
    let limit := s.nextWait?.map fun wait => ⟨wait.nanoseconds - passed.nanoseconds⟩
    if ← Interaction.call (.awaitStop limit) then return s
    else
      let now ← Interaction.procedure Procedure.now
      let (_, s) ← conduct scope (Scheduler.advance (mark.durationUntil now)) s
      serve scope now s turns

def turnBound : Nat := Word.count 48

/-- Leaves the reason why a daemon did not start to those who look for it. -/
def leaveError (daemon : Daemon) (message : String) : Interaction (Except ScheduleError Unit) :=
  Interaction.procedure (daemon.writeError message).run

/-- Runs the scheduler in this process until it is told to stop. -/
def runScheduler (scope : CommandScope) : Commanding Unit := ExceptT.mk do
  let asDaemon := scope.invocation.isDaemon
  let scheduler := Scheduler.create scope.schedules scope.daemon
  let mark ← Interaction.procedure Procedure.now
  let (started, scheduler) ← conduct scope (Scheduler.start asDaemon).run scheduler
  match started with
  | .error e =>
    if asDaemon then let _ ← leaveError scope.daemon e.message
    return .error (.schedulerStart e)
  | .ok _ =>
    let scheduler ← serve scope mark scheduler turnBound
    let (stopped, _) ← conduct scope (Scheduler.shutDown asDaemon).run scheduler
    return stopped.mapError .schedule

/-- How often and how long the start of a daemon is waited for. -/
def startAttempts : Nat := 3

def startInterval : Duration := .ofMilliseconds 800

def startDaemon (scope : CommandScope) : Commanding Unit := do
  let daemon := scope.daemon
  if let some pid ← onSchedules daemon.pid? then throw (.schedule (.alreadyRunning pid))
  onSchedules daemon.clearErrors
  let arguments := ["schedule", "start", "--daemon", "--home", scope.settings.home]
  match ← ExceptT.lift (Interaction.call (.launch arguments)) with
  | .error e => throw (.schedule (.io "current executable" e.message))
  | .ok child =>
    match ← procedure (daemon.awaitStart child startInterval startAttempts) with
    | some pid =>
      say s!"✓ Scheduler daemon started (PID: {pid})"
      say ("  log: " ++ scope.settings.paths.daemonLog)
    | none => throw (.schedule (.daemonStartFailed (← procedure daemon.errors?)))

def stopDaemon (scope : CommandScope) : Commanding Unit := do
  if ← onSchedules (scope.daemon.stop Scheduler.stopGrace) then
    say "✓ Scheduler daemon stopped"
  else say "Scheduler daemon is not running"

/-! ### The commands -/

def perform (scope : CommandScope) (command : ScheduleCommand) : Commanding Exit := do
  match command with
  | .add file => addFile scope.schedules file
  | .list => listAll scope.schedules
  | .remove id => removeOne scope id
  | .toggle id => toggleOne scope id
  | .start asDaemon =>
    if asDaemon && !scope.invocation.isDaemon then startDaemon scope else runScheduler scope
  | .stop => stopDaemon scope
  | .status => tellStatus scope
  return .success

end ScheduleCommand

end Runbook.Console
