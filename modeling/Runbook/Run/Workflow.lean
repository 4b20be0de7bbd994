import Runbook.Run.Step

/-!
Runs of workflows. The steps are taken in turn until one fails; the branches of a parallel step are
driven together on copies of the workspace, which are then merged in the order in which they are
written.
-/

namespace Runbook

/-- The bounds that make every run come to an end: how often a command without a bound of its own is
tried, and how many effects the branches of a step have together. -/
structure RunBounds where
  patience : Nat
  turns : Nat
  deriving DecidableEq, Repr

def RunBounds.standard : RunBounds := ⟨100000, 10000000⟩

structure Run where
  runId : String
  start : Timestamp
  stop : Timestamp
  failure : Option String
  workspace : Workspace
  history : History
  deriving DecidableEq, Repr

namespace Run

def isSuccess (r : Run) : Bool := r.failure.isNone

/-- The command or the message that a step is labelled with. -/
def actionText (action : Action) (w : Workspace) : String :=
  match action with
  | .run step => Template.substitute w step.command
  | .choose step => step.message
  | .prompt step => step.message
  | .fail message => message

def stepText (body : StepBody) (w : Workspace) : String :=
  match body with
  | .action action => actionText action w
  | .parallel branches => s!"{branches.length} branch(es)"

def stepLabel (scope : RunScope) (step : Step) (index : Nat) (w : Workspace) : StepLabel where
  index
  branch := none
  line := scope.workflow.stepLine? index
  kind := step.body.kind
  text := stepText step.body w
  conditional := step.guard.isSome

def branchLabel (scope : RunScope) (b : Branch) (index branch : Nat) (w : Workspace) :
    StepLabel where
  index
  branch := some branch
  line := scope.workflow.stepLine? index
  kind := b.action.kind
  text := actionText b.action w
  conditional := b.guard.isSome

/-- Merges the workspaces of the branches in their order; the first branch that could not be taken
ends that. The truth value tells whether all branches succeeded. -/
def mergeBranches (success : Bool) (w : Workspace) :
    List (Except String Branch.End) → Except String Bool × Workspace
  | [] => (.ok success, w)
  | .error cause :: _ => (.error cause, w)
  | .ok e :: rest => mergeBranches (success && e.success) (w.merge e.workspace) rest

def branchTasks (scope : RunScope) (branches : List Branch) (index : Nat) (w : Workspace) :
    List (Task (Except String Branch.End)) :=
  branches.zipIdx.map fun (b, i) => b.take scope (branchLabel scope b index i w) i w

/-- The task of a parallel step: its branches are taken together, and what they came to is merged.
-/
def takeParallel (bounds : RunBounds) (scope : RunScope) (branches : List Branch)
    (label : StepLabel) (w : Workspace) : Task StepEnd := do
  Task.display (.parallelStarted label branches.length)
  Task.record (.parallelStarted label.index branches.length)
  let ends ← Pool.join Task.pick (branchTasks scope branches label.index w) bounds.turns
  match mergeBranches true w ends with
  | (.error cause, w) => return ⟨some (label.name ++ " failed: " ++ cause), w⟩
  | (.ok success, w) =>
    Task.display (.parallelFinished label success)
    Task.record (.parallelFinished label.index success)
    return ⟨if success then none else some (label.name ++ " failed"),
      w.setOutcome label.index ⟨success, none⟩⟩

def skip (label : StepLabel) (w : Workspace) : Task StepEnd := do
  Task.display (.stepSkipped label)
  Task.record (.stepSkipped label.index none)
  return ⟨none, w⟩

def takeStep (bounds : RunBounds) (scope : RunScope) (step : Step) (index : Nat) (w : Workspace) :
    Task StepEnd := do
  let label := stepLabel scope step index w
  if ← Step.isDue step.guard scope w then
    match step.body with
    | .action action => Step.act action scope label w
    | .parallel branches => takeParallel bounds scope branches label w
  else skip label w

/-- The task of steps in turn, the first with the index given, until one fails. -/
def takeSteps (bounds : RunBounds) (scope : RunScope) (index : Nat) (w : Workspace) :
    List Step → Task StepEnd
  | [] => return ⟨none, w⟩
  | step :: rest => do
    let taken ← takeStep bounds scope step index w
    if taken.failure.isSome then return taken
    else takeSteps bounds scope (index + 1) taken.workspace rest

def closing (failure : Option String) (milliseconds : Nat) : Occurrence :=
  match failure with
  | none => .runCompleted milliseconds
  | some error => .runFailed error milliseconds

def event? (runId : String) (e : Exchange Effect.interface) : Option Event :=
  match e with
  | ⟨.record occurrence, stamp⟩ => some ⟨stamp.id, runId, stamp.time, occurrence⟩
  | _ => none

def initialWorkspace (given : Bindings String) : Workspace :=
  { Workspace.empty with vars := Workspace.empty.vars.union given }

def report (failure : Option String) (duration : Duration) (history : History) : Task Stamp := do
  if let some message := failure then Task.display (.error message)
  Task.display (.totalDuration duration)
  Task.display (.timeline history)
  Task.effect (.save history)
  Task.clock

end Run

structure RunOptions where
  given : Bindings String
  backoff : Backoff
  bounds : RunBounds
  deriving Repr

namespace Workflow

/-- The task of a workflow. Paths of the workflow are seen from the directory `current` where its
file has none. -/
def task (w : Workflow) (options : RunOptions) (current : FilePath) : Task Run := do
  let scope : RunScope := ⟨w, options.given, w.workingDir? current, options.backoff,
    options.bounds.patience⟩
  let start ← Task.clock
  let ((taken, stop), exchanges) ← Program.traced do
    Task.record (.runStarted w.name w.steps.length)
    let taken ← Run.takeSteps options.bounds scope 0 (Run.initialWorkspace options.given) w.steps
    let stop ← Task.clock
    Task.record (Run.closing taken.failure (start.time.durationUntil stop.time).milliseconds)
    return (taken, stop)
  let history : History := ⟨start.id, w.name, start.time, exchanges.filterMap (Run.event? start.id)⟩
  let last ← Run.report taken.failure (start.time.durationUntil stop.time) history
  return ⟨start.id, start.time, last.time, taken.failure, taken.workspace, history⟩

/-- Runs a workflow on a host. -/
def run {σ : Type} (w : Workflow) (h : RunHost σ) (options : RunOptions) (current : FilePath)
    (s : σ) : Option (RunDriven σ Run) :=
  (w.task options current).drive h s

end Workflow

end Runbook
