import Runbook.History.Store
import Runbook.Run.Workflow
import Runbook.Console.Interaction
import Runbook.Console.Narration

/-!
Runs on a terminal: commands are carried out, questions are asked, and what happens is told as far
as it is to be shown. The branches of a step are carried out in turn, and each of them has a clock
of its own, so that they go on in the order in which they would come to an end side by side.
-/

namespace Runbook

open Console (ConsoleCall Interaction)

/-- The names of runs and events are written in groups of digits. -/
def RunId.ofFreshName (name : String) : String := (RunId.ofDigits? name.toList).getD name

namespace Console

structure RunPlace where
  /-- The directory that the program was called from. -/
  current : FilePath
  environment : Environment
  history : HistoryStore
  isShown : Bool
  /-- The bound of the work of a command that knows no end. -/
  fuel : Nat
  deriving DecidableEq, Repr

/-- A run under way: the time that its branches took so far, and the commands that are over but not
yet known to be. -/
structure Progression where
  clocks : Bindings Duration Nat
  ended : List (Option Nat × CommandOutcome)
  deriving DecidableEq, Repr

abbrev Running (α : Type) := StateT Progression (Program ConsoleCall.interface) α

namespace Running

variable (place : RunPlace)

def show? (d : Display) : Interaction Unit :=
  if place.isShown then Interaction.tell d.lines else return ()

def pass (branch : Option Nat) (duration : Duration) : Running Unit := do
  if let some b := branch then
    modify fun p =>
      let time := (p.clocks.find? b).getD .zero
      { p with clocks := p.clocks.bind b ⟨time.nanoseconds + duration.nanoseconds⟩ }

def makeCall : (c : ExecutionCall) → Interaction c.Reply
  | .system c => Interaction.call (.system c)
  | .display d => show? place d

/-- Carries out a command, which may read what is left of the input. -/
def carryOut (request : CommandRequest) : Interaction CommandOutcome := do
  let input ← Interaction.call .takeInput
  let process := (← Interaction.procedure Procedure.processId) + 1
  let scope : ExecutionScope := ⟨place.current, place.environment, process, input, place.fuel⟩
  let (outcome, rest) ← (Execution.command request scope).interpret (makeCall place)
  Interaction.call (.returnInput rest)
  return outcome

def stamp : Interaction Stamp := do
  let name ← Interaction.procedure Procedure.freshName
  return ⟨RunId.ofFreshName name, ← Interaction.procedure Procedure.now⟩

/-- Of several branches, the one that has taken the least time, and of those the first. -/
def pick (p : Progression) (places : List Nat) : Nat :=
  let time := fun place => ((p.clocks.find? place).getD .zero).nanoseconds
  match places with
  | [] => 0
  | first :: rest => rest.foldl (fun a b => if time b < time a then b else a) first

/-- Carries out one effect of a run. A history that cannot be saved is no failure of the run. -/
def perform : (effect : Effect) → Running effect.Reply
  | .record _ => StateT.lift stamp
  | .clock => StateT.lift stamp
  | .display d => do
    if let .parallelFinished .. := d then set (⟨[], []⟩ : Progression)
    StateT.lift (show? place d)
  | .check path => do
    return (← StateT.lift (Interaction.procedure (Procedure.kind path))).isSome
  | .start request => do
    let outcome ← StateT.lift (carryOut place request)
    let branch := request.label.branch
    pass branch outcome.duration
    modify fun p => { p with ended := (branch, outcome) :: p.ended }
  | .finish request => do
    return ((← get).ended.lookup request.label.branch).getD (.notStarted "unknown command")
  | .ask question => StateT.lift (Interaction.ask question)
  | .pause label delay => do
    StateT.lift (Interaction.procedure (Procedure.sleep delay))
    pass label.branch delay
  | .save history => do
    let _ ← StateT.lift (Interaction.procedure (place.history.write history).run)
  | .pick places => return pick (← get) places

end Running

def runWorkflow (place : RunPlace) (backoff : Backoff) (w : Workflow) (given : Bindings String) :
    Interaction (Computed Run) := do
  let task := w.task ⟨given, backoff, RunBounds.standard⟩ place.current
  match ← (task.runIn (Running.perform place)).run ⟨[], []⟩ with
  | (.ok run, _) => return .ok run
  | (.error .overflow, _) => return .error .overflow
  | (.error .bound, _) => .unbounded

end Console

end Runbook
