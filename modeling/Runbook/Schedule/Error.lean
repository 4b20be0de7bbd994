import Runbook.Workflow.Error
import Runbook.Cron.Reader

/-!
Why something about schedules could not be done, and the text that says so.
-/

namespace Runbook

inductive ScheduleError where
  | invalidCron (expression : String) (fault : Cron.Fault)
  | invalidTimezone (text : String)
  | notFound (id : String)
  | workflowNotFound (path : FilePath)
  | alreadyRunning (pid : Nat)
  | daemonStartFailed (log : Option String)
  | invalidFile (detail : String)
  | workflow (error : WorkflowError)
  | io (path : FilePath) (cause : String)
  | serialization
  deriving DecidableEq, Repr

namespace ScheduleError

def cronMessage (expression reason : String) : String :=
  s!"Invalid cron expression \"{expression}\": {reason}"

def message : ScheduleError → String
  | .invalidCron expression fault => cronMessage expression fault.message
  | .invalidTimezone text =>
    s!"Invalid timezone \"{text}\". Use an IANA name or a UTC offset between -12 and +14"
  | .notFound id => "Schedule not found: " ++ id
  | .workflowNotFound path => "Workflow file not found: " ++ path
  | .alreadyRunning pid => s!"Scheduler daemon is already running (PID: {pid})"
  | .daemonStartFailed log =>
    "Scheduler daemon failed to start" ++ (log.map (":\n" ++ ·)).getD ""
  | .invalidFile detail => "Invalid schedule file: " ++ detail
  | .workflow error => error.message
  | .io path cause => s!"I/O error on {path}: {cause}"
  | .serialization => "Serialization error: <detail>"

/-- The message with the cause after it, which the message of a refused request names too. -/
def fullMessage (e : ScheduleError) : String :=
  match e with
  | .workflow error => error.fullMessage
  | .io _ cause => e.message ++ ": " ++ cause
  | _ => e.message

end ScheduleError

def Cron.parse (expression : String) : Computed (Except ScheduleError Cron) := do
  return (← Cron.read expression).mapError (.invalidCron expression)

def Zone.resolve (setting : Option String) : Except ScheduleError Zone :=
  match Zone.resolve? setting with
  | some zone => .ok zone
  | none => .error (.invalidTimezone (setting.getD ""))

end Runbook
