import Runbook.Word
import Runbook.Bindings
import Runbook.Duration
import Runbook.FilePath

/-!
Workflows: steps that are taken in turn, some of them under a condition. A step runs a command,
asks its user, runs several branches at once, or stops the workflow.
-/

namespace Runbook

/-- What is known of a fact: nothing, that it failed, or that it is there. -/
inductive FactStatus where
  | ready | failed | pending
  deriving DecidableEq, Repr

inductive Condition where
  | fileExists (path : FilePath)
  | varExists (name : String)
  | varEquals (expected : Bindings String)
  | hasVar (name : String)
  | factStatus (fact : String) (expected : FactStatus)
  | lastStep (success : Bool)
  | choiceMade (option : String)
  | all (conditions : List Condition)
  | any (conditions : List Condition)
  | not (condition : Condition)
  deriving Repr, Inhabited

/-- What a capture takes from the lines that a command printed. -/
inductive Extraction where
  | full
  | pattern (regex : String)
  | jsonPath (path : String)
  | yamlPath (path : String)
  | keyValue (key : String)
  | after (marker : String)
  | before (marker : String)
  | between (after before : String)
  | lines (first last : Int64)
  deriving DecidableEq, Repr

/-- Binds what is taken from a command's lines to a variable. -/
structure CaptureRule where
  variableName : String
  extraction : Extraction
  deriving DecidableEq, Repr

/-- How many times a failed command is tried again. -/
inductive Retry where
  | count (n : UInt32)
  | forever
  deriving DecidableEq, Repr

namespace Retry

def never : Retry := .count 0

/-- Whether a command that was tried again `made` times may be tried once more. -/
def allows (r : Retry) (made : UInt32) : Bool :=
  match r with
  | .count n => made < n
  | .forever => true

end Retry

structure Fallback where
  command : String
  timeout : Option Duration
  retry : Retry
  deriving DecidableEq, Repr

structure RunStep where
  command : String
  timeout : Option Duration
  retry : Retry
  shell : Option (List String)
  continueOnError : Bool
  fallbacks : List Fallback
  captures : List CaptureRule
  deriving DecidableEq, Repr

structure ChoiceOption where
  id : String
  label : String
  deriving DecidableEq, Repr

structure ChooseStep where
  message : String
  options : List ChoiceOption
  storeAs : Option String
  deriving DecidableEq, Repr

def ChooseStep.variableName (c : ChooseStep) : String := c.storeAs.getD "choice"

structure PromptStep where
  message : String
  storeAs : String
  default : Option String
  deriving DecidableEq, Repr

inductive Action where
  | run (step : RunStep)
  | choose (step : ChooseStep)
  | prompt (step : PromptStep)
  | fail (message : String)
  deriving DecidableEq, Repr

structure Branch where
  guard : Option Condition
  action : Action
  deriving Repr

inductive StepBody where
  | action (action : Action)
  | parallel (branches : List Branch)
  deriving Repr

structure Step where
  guard : Option Condition
  body : StepBody
  deriving Repr

/-- Variables under a name, for runs that nobody attends. -/
structure Profile where
  name : String
  vars : Bindings String
  deriving DecidableEq, Repr

/-- Where a workflow was read from, and for every step the line it begins on. -/
structure WorkflowSource where
  fileName : Option String
  filePath : Option FilePath
  stepLines : List (Nat × Nat)
  deriving DecidableEq, Repr

structure Workflow where
  name : Option String
  baseDir : Option FilePath
  shell : Option (List String)
  profiles : List Profile
  steps : List Step
  source : WorkflowSource
  deriving Repr

namespace Action

def kind : Action → String
  | .run _ => "run"
  | .choose _ => "choose"
  | .prompt _ => "prompt"
  | .fail _ => "fail"

end Action

def StepBody.kind : StepBody → String
  | .action a => a.kind
  | .parallel _ => "parallel"

namespace Workflow

def stepLine? (w : Workflow) (index : Nat) : Option Nat := w.source.stepLines.lookup index

/-- The directory that commands run in: the base directory as seen from the workflow's file, or
else that file's directory. -/
def workingDir? (w : Workflow) (current : FilePath) : Option FilePath :=
  let fileDir := w.source.filePath.bind FilePath.parent?
  match w.baseDir, fileDir with
  | some base, some dir => some (dir.join base)
  | some base, none => some (current.join base)
  | none, dir => dir

end Workflow

end Runbook
