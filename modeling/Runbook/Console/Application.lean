import Runbook.Workflow.Reader
import Runbook.Console.CommandLine
import Runbook.Console.Failure
import Runbook.Console.ScheduleCommands

/-!
The program as a whole: from the arguments that it is called with to its exit. The commands that run
a workflow, and those on histories of runs that are over, stand before it.
-/

namespace Runbook.Console

open Commanding

namespace RunRequest

def prepare (r : RunRequest) : Commanding (Workflow × Bindings String) := ExceptT.mk do
  let loaded ← Interaction.procedure (Workflow.load r.file)
  let prepared := do
    let w ← loaded
    return (w, ← w.runVariables r.profile (.ofPairs r.settings))
  return prepared.mapError .workflow

def perform (scope : CommandScope) (r : RunRequest) : Commanding Exit := do
  let (w, given) ← r.prepare
  let run ← computed (← ExceptT.lift
    (runWorkflow (scope.runPlace r.isSilent) scope.settings.backoff w given))
  match run.failure with
  | some message =>
    complain ("Workflow failed: " ++ message)
    return .failure
  | none =>
    if !r.isSilent then say "✓ Workflow completed"
    return .success

end RunRequest

end Runbook.Console

namespace Runbook.Console

open Commanding

namespace HistoryCommand

def listAll (store : HistoryStore) : Commanding Unit := do
  let entries ← onHistories store.list
  if entries.isEmpty then say "No execution history."
  for entry in entries do say entry.name

def showOne (store : HistoryStore) (file : String) : Commanding Unit := do
  let history ← onHistories (store.load file)
  let name := history.workflowName.getD "(unnamed workflow)"
  say s!"{name} started {history.start.plainText}"
  for line in history.summary do say line
  say ("Elapsed: " ++ (Duration.ofMilliseconds history.elapsedMilliseconds).briefText)

def removeOne (store : HistoryStore) (file : String) : Commanding Unit := do
  if ← onHistories (store.remove file) then say ("Removed " ++ file)
  else throw (.unknownHistory file)

def perform (store : HistoryStore) : HistoryCommand → Commanding Exit
  | .list => do
    listAll store
    return .success
  | .timeline file => do
    showOne store file
    return .success
  | .remove file => do
    removeOne store file
    return .success
  | .clear => do
    let removed ← onHistories store.clear
    say s!"Removed {removed} history file(s)"
    return .success

end HistoryCommand

/-- Why a command line is refused, for a reader. -/
def UsageError.message : UsageError → String
  | .help _ => "help is asked for"
  | .version => "the version is asked for"
  | .helpOnMissing => "a command is missing"
  | .missingSubcommand => "a command is missing"
  | .missingOperand => "a required argument is missing"
  | .unknownArgument => "there is an unexpected argument"
  | .invalidSubcommand => "there is no such command"
  | .invalidValue => "an option has no value"
  | .invalidSetting => "a variable is not given as KEY=VALUE"
  | .conflict => "an option is given more than once"
  | .tooManyValues => "an option that takes no value has one"

namespace Invocation

def home? (i : Invocation) : Option String := i.environment.find? "PIPELINER_HOME"

def answerUsage (i : Invocation) : UsageError → Interaction Exit
  | .help names => do
    Interaction.write .stdout (helpText i.home? names)
    return .success
  | .version => do
    Interaction.say versionText
    return .success
  | e => do
    Interaction.complain s!"error: {e.message}\n\nFor more information, try '--help'."
    return .misuse

/-- Leaves what a daemon fails for before its work begins, since no one reads what it writes. -/
def leaveFailure (i : Invocation) (paths : StatePaths) (e : Failure) : Interaction Unit := do
  if i.isDaemon then
    match ← ScheduleCommand.leaveError paths.daemonFiles e.message with
    | .ok () => return ()
    | .error fault => Interaction.complain ("Failed to write daemon error log: " ++ fault.message)

def openLog (paths : StatePaths) : Commanding Unit := ExceptT.mk do
  let directory := paths.daemonLog.parent?.getD ""
  match ← Interaction.procedure (Procedure.makeDirectories directory) with
  | .error cause => return .error (.logDirectory cause)
  | .ok () =>
    match ← Interaction.procedure (Procedure.append paths.daemonLog "") with
    | .error cause => return .error (.logFile paths.daemonLog cause)
    | .ok () => return .ok ()

/-- A part of the preparation, whose failure a daemon leaves to those who look for it. -/
def preparing {α : Type} (i : Invocation) (paths : StatePaths) (part : Commanding α) :
    Commanding α := ExceptT.mk do
  let result ← part.run
  if let .error e := result then i.leaveFailure paths e
  return result

/-- The settings of a state directory; a daemon also gets its log. -/
def prepare (i : Invocation) (home : FilePath) : Commanding Settings := do
  let settings ← i.preparing (StatePaths.beneath home) <| ExceptT.mk do
    return (← Interaction.procedure (Settings.load home).run).mapError .settings
  if i.isDaemon then i.preparing settings.paths (openLog settings.paths)
  return settings

def perform (i : Invocation) (line : CommandLine) : Commanding Exit := do
  let settings ← i.prepare (line.home.getD i.environment.stateRoot)
  let scope : CommandScope := ⟨i, settings⟩
  match line.command with
  | .run request => request.perform scope
  | .schedule command => command.perform scope
  | .history command => command.perform scope.histories

def run (i : Invocation) : Interaction Exit := do
  match CommandLine.read i.home? i.arguments with
  | .error e => i.answerUsage e
  | .ok line =>
    match ← (i.perform line).run with
    | .ok exit => return exit
    | .error e =>
      Interaction.complain ("Error: " ++ e.message)
      return .failure

end Invocation

end Runbook.Console
