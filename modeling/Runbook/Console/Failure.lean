import Runbook.Console.Running
import Runbook.Console.Settings

/-!
Commands of the program: what they have to do with, how they end, and why they fail.
-/

namespace Runbook.Console

inductive Exit where
  | success | failure | misuse | aborted
  deriving DecidableEq, Repr

def Exit.code : Exit → Nat
  | .success => 0
  | .failure => 1
  | .misuse => 2
  | .aborted => 101

/-- How a program ends; an overflow aborts it. -/
def Exit.ofEnd : Except Halt Exit → Exit
  | .ok exit => exit
  | .error .bound => .failure
  | .error .overflow => .aborted

inductive Failure where
  | settings (error : SettingsError)
  | logDirectory (cause : SystemError)
  | logFile (path : FilePath) (cause : SystemError)
  | workflow (error : WorkflowError)
  | schedule (error : ScheduleError)
  | schedulerStart (error : ScheduleError)
  | history (error : HistoryError)
  | nothingAdded
  | unknownHistory (file : String)
  deriving DecidableEq, Repr

def Failure.message : Failure → String
  | .settings e => e.fullMessage
  | .logDirectory cause => "Failed to create daemon directory: " ++ cause.message
  | .logFile path cause => s!"Failed to open {path}: {cause.message}"
  | .workflow e => e.fullMessage
  | .schedule e => e.fullMessage
  | .schedulerStart e => "Failed to start scheduler: " ++ e.fullMessage
  | .history e => e.fullMessage
  | .nothingAdded => "No schedules were added"
  | .unknownHistory file => "History file not found: " ++ file

structure Invocation where
  current : FilePath
  environment : Environment
  arguments : List String
  /-- The bound of the work of a command of a workflow that knows no end. -/
  fuel : Nat
  deriving DecidableEq, Repr

def Invocation.isDaemon (i : Invocation) : Bool := i.environment.isDaemonProcess

structure CommandScope where
  invocation : Invocation
  settings : Settings
  deriving DecidableEq, Repr

namespace CommandScope

def daemon (s : CommandScope) : Daemon := s.settings.paths.daemonFiles

def schedules (s : CommandScope) : ScheduleStore := ⟨s.settings.paths.schedules⟩

def histories (s : CommandScope) : HistoryStore := ⟨s.settings.paths.history⟩

/-- Where runs take place; the runs of a daemon are not shown. -/
def runPlace (s : CommandScope) (isSilent : Bool) : RunPlace :=
  ⟨s.invocation.current, s.invocation.environment, s.histories, !isSilent, s.invocation.fuel⟩

end CommandScope

abbrev Commanding (α : Type) := ExceptT Failure (Program ConsoleCall.interface) α

namespace Commanding

def say (line : String) : Commanding Unit := ExceptT.lift (Interaction.say line)

def complain (line : String) : Commanding Unit := ExceptT.lift (Interaction.complain line)

def procedure {α : Type} (p : Procedure α) : Commanding α :=
  ExceptT.lift (Interaction.procedure p)

def computed {α : Type} (c : Computed α) : Commanding α := ExceptT.lift (Program.computed c)

def onSchedules {α : Type} (p : ScheduleProcedure α) : Commanding α :=
  ExceptT.mk do return (← Interaction.procedure p.run).mapError .schedule

def onHistories {α : Type} (p : HistoryProcedure α) : Commanding α :=
  ExceptT.mk do return (← Interaction.procedure p.run).mapError .history

end Commanding

end Runbook.Console
