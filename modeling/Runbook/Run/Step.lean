import Runbook.Capture
import Runbook.Template
import Runbook.Workflow.Evaluation
import Runbook.Run.Backoff
import Runbook.Run.Task

/-!
The tasks of single steps. A run step tries its command until it succeeds or its retries are used
up, then each fallback in the same way; what it captures comes from its own command only.
-/

namespace Runbook

structure RunScope where
  workflow : Workflow
  /-- Values that stand for the answers to choices and prompts. -/
  given : Bindings String
  directory : Option FilePath
  backoff : Backoff
  /-- How often a command is tried at most if nothing else bounds its retries. -/
  patience : Nat
  deriving Repr

/-- What the tries of a command came to, and the workspace with its captures. -/
structure RunStepResult where
  outcome : CommandOutcome
  workspace : Workspace
  deriving DecidableEq, Repr

namespace RunStep

/-- How many tries are to be bounded: those that the retries allow, or as many as patience does. -/
def tries (retry : Retry) (patience : Nat) : Nat :=
  match retry with
  | .count n => n.toNat + 1
  | .forever => patience

/-- Tries a command after some retries, until it succeeds or no retry is left. The retries are
counted in a word, which stays at the greatest one. -/
def attempt (scope : RunScope) (request : CommandRequest) (retry : Retry) (made : UInt32) :
    Nat → Task CommandOutcome
  | 0 => .unbounded
  | bound + 1 => do
    let outcome ← Task.command request
    if request.mode = .buffered then Task.display (.bufferedResult request.label outcome)
    if outcome.success || !retry.allows made then
      return outcome
    else
      let number := Word.following made
      let delay := scope.backoff.delay number.toNat
      Task.record (.stepRetried request.label.index request.label.branch number.toNat
        delay.milliseconds)
      Task.pause request.label delay
      attempt scope request retry number bound

def attempts (scope : RunScope) (request : CommandRequest) (retry : Retry) :
    Task CommandOutcome :=
  attempt scope request retry 0 (tries retry scope.patience)

def withCommand (request : CommandRequest) (command : String) : CommandRequest :=
  { request with command, label := { request.label with text := command } }

/-- Tries the fallbacks of a level and those after it, until one succeeds; without any, the outcome
is the one before. -/
def fallBack (scope : RunScope) (w : Workspace) (request : CommandRequest) (last : CommandOutcome)
    (level : Nat) : List Fallback → Task CommandOutcome
  | [] => return last
  | f :: rest => do
    let command := Template.substitute w f.command
    Task.record (.fallbackStarted request.label.index request.label.branch level command)
    let outcome ← attempts scope { withCommand request command with timeout := f.timeout } f.retry
    if outcome.success then return outcome
    else fallBack scope w request outcome (level + 1) rest

/-- Binds what the rules take from the lines of a command; a rule that finds nothing binds
nothing. -/
def applyCaptures (rules : List CaptureRule) (stdout : List String) (w : Workspace) :
    Computed Workspace :=
  rules.foldlM (fun w rule => do
    match ← rule.extraction.apply stdout with
    | some value => return w.setVariable rule.variableName value
    | none => return w) w

/-- Lines are held back for captures, and in branches, so that they do not mix. -/
def mode (step : RunStep) (label : StepLabel) : OutputMode :=
  if step.captures.isEmpty && label.branch.isNone then .realtime else .buffered

def request (step : RunStep) (scope : RunScope) (label : StepLabel) (w : Workspace) :
    CommandRequest :=
  let command := Template.substitute w step.command
  { command, shell := step.shell <|> scope.workflow.shell, directory := scope.directory,
    timeout := step.timeout, mode := step.mode label, label := { label with text := command } }

def execute (step : RunStep) (scope : RunScope) (label : StepLabel) (w : Workspace) :
    Task RunStepResult := do
  let request := step.request scope label w
  let outcome ← attempts scope request step.retry
  if outcome.success then
    return ⟨outcome, ← Program.computed (applyCaptures step.captures outcome.stdout w)⟩
  else
    return ⟨← fallBack scope w request outcome 1 step.fallbacks, w⟩

def closing (label : StepLabel) (command : String) (o : CommandOutcome) (milliseconds : Nat) :
    Occurrence :=
  let resolved := some (ResolvedValue.command command)
  if o.success then
    .stepCompleted label.index label.branch "run" resolved o.exitCode milliseconds
  else
    .stepFailed label.index label.branch "run" resolved o.exitCode o.failureReason milliseconds

/-- Executes a run step and records its outcome, in the workspace under `slot`. -/
def take (step : RunStep) (scope : RunScope) (label : StepLabel) (slot : Nat) (w : Workspace) :
    Task RunStepResult := do
  let start ← Task.clock
  let result ← step.execute scope label w
  let milliseconds ← Task.millisecondsSince start.time
  Task.record (closing label (step.request scope label w).command result.outcome milliseconds)
  let outcome := ⟨result.outcome.success, result.outcome.exitCode⟩
  return { result with workspace := result.workspace.setOutcome slot outcome }

end RunStep

/-- How a step or a run ends: with a failure or without, and in either case with a workspace. -/
structure StepEnd where
  failure : Option String
  workspace : Workspace
  deriving DecidableEq, Repr

namespace Step

def isDue (guard : Option Condition) (scope : RunScope) (w : Workspace) : Task Bool :=
  match guard with
  | none => return true
  | some c => c.evaluate w fun path => Task.check (Condition.located scope.directory path)

/-- Records a step that has no exit code and its outcome. -/
def complete (label : StepLabel) (resolved : ResolvedValue) (start : Timestamp) (w : Workspace) :
    Task StepEnd := do
  let milliseconds ← Task.millisecondsSince start
  Task.record (.stepCompleted label.index none label.kind (some resolved) none milliseconds)
  return ⟨none, w.setOutcome label.index ⟨true, none⟩⟩

/-- Records that a question was not answered; the outcome of the step is not. -/
def unanswered (label : StepLabel) (cause : String) (start : Timestamp) (w : Workspace) :
    Task StepEnd := do
  let milliseconds ← Task.millisecondsSince start
  Task.record (.stepFailed label.index none label.kind none none cause milliseconds)
  return ⟨some (label.name ++ " failed: " ++ cause), w⟩

def valueOrAnswer (scope : RunScope) (name : String) (question : Question) :
    Task (Except String String) :=
  match scope.given.find? name with
  | some value => return .ok value
  | none => Task.ask question

def choose (step : ChooseStep) (scope : RunScope) (label : StepLabel) (w : Workspace) :
    Task StepEnd := do
  let start ← Task.clock
  let question := .choose (Template.substitute w step.message) step.options
  match ← valueOrAnswer scope step.variableName question with
  | .ok id =>
    let w := (w.setChoice id id).setVariable step.variableName id
    complete label (.choice id) start.time w
  | .error cause => unanswered label cause start.time w

def prompt (step : PromptStep) (scope : RunScope) (label : StepLabel) (w : Workspace) :
    Task StepEnd := do
  let start ← Task.clock
  let question := .enter (Template.substitute w step.message)
    (step.default.map (Template.substitute w))
  match ← valueOrAnswer scope step.storeAs question with
  | .ok value =>
    let w := (w.setVariable step.storeAs value).setFact step.storeAs (.text value)
    complete label (.prompt value) start.time w
  | .error cause => unanswered label cause start.time w

/-- Records a step that fails on purpose, its outcome in the workspace under `slot`. -/
def fail (message : String) (label : StepLabel) (slot : Nat) (w : Workspace) : Task StepEnd := do
  let message := Template.substitute w message
  Task.record (.stepFailed label.index label.branch "fail" none none message 0)
  return ⟨some message, w.setOutcome slot ⟨false, none⟩⟩

def act (action : Action) (scope : RunScope) (label : StepLabel) (w : Workspace) :
    Task StepEnd :=
  match action with
  | .run step => do
    let result ← step.take scope label label.index w
    let failed := !result.outcome.success && !step.continueOnError
    return ⟨if failed then some (label.name ++ " failed") else none, result.workspace⟩
  | .choose step => choose step scope label w
  | .prompt step => prompt step scope label w
  | .fail message => fail message label label.index w

end Step

namespace Branch

/-- Branches record their outcomes apart from those of the steps: a step has room for this many. -/
def stride : Nat := 1000

/-- What a branch came to: whether it succeeded, and its workspace. -/
structure End where
  success : Bool
  workspace : Workspace
  deriving DecidableEq, Repr

/-- The task of a branch on its own copy of the workspace. A branch that is not due succeeds. Nobody
can be asked from a branch. -/
def take (b : Branch) (scope : RunScope) (label : StepLabel) (branch : Nat) (w : Workspace) :
    Task (Except String End) := do
  let slot := label.index * stride + branch
  if ← Step.isDue b.guard scope w then
    match b.action with
    | .run step =>
      let result ← step.take scope label slot w
      return .ok ⟨result.outcome.success || step.continueOnError, result.workspace⟩
    | .fail message =>
      let result ← Step.fail message label slot w
      return .ok ⟨false, result.workspace⟩
    | .choose _ => return .error "'choose' step cannot run inside a parallel block"
    | .prompt _ => return .error "'prompt' step cannot run inside a parallel block"
  else
    Task.display (.stepSkipped label)
    Task.record (.stepSkipped label.index (some branch))
    return .ok ⟨true, w⟩

end Branch

end Runbook
