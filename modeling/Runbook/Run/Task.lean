import Runbook.Program
import Runbook.History.Basic
import Runbook.Workflow.Basic
import Runbook.Run.Command

/-!
Tasks: what a step does, as a program of effects on the host of a run.
-/

namespace Runbook

inductive Question where
  | choose (message : String) (options : List ChoiceOption)
  | enter (message : String) (default : Option String)
  deriving DecidableEq, Repr

/-- What is shown of a run while it goes on. -/
inductive Display where
  | stepStarted (label : StepLabel)
  | outputLine (stream : OutputStream) (line : String)
  | stepFinished (label : StepLabel) (success : Bool) (duration : Duration)
  | bufferedResult (label : StepLabel) (outcome : CommandOutcome)
  | stepSkipped (label : StepLabel)
  | error (message : String)
  | parallelStarted (label : StepLabel) (branches : Nat)
  | parallelFinished (label : StepLabel) (success : Bool)
  | totalDuration (duration : Duration)
  | timeline (history : History)
  deriving DecidableEq, Repr

/-- A fresh name and the time at which it was given. -/
structure Stamp where
  id : String
  time : Timestamp
  deriving DecidableEq, Repr

inductive Effect where
  | record (occurrence : Occurrence)
  | display (display : Display)
  | check (path : FilePath)
  | start (request : CommandRequest)
  | finish (request : CommandRequest)
  | ask (question : Question)
  | pause (label : StepLabel) (delay : Duration)
  | save (history : History)
  | clock
  | pick (places : List Nat)
  deriving DecidableEq, Repr

abbrev Effect.Reply : Effect → Type
  | .record _ => Stamp
  | .check _ => Bool
  | .finish _ => CommandOutcome
  | .ask _ => Except String String
  | .clock => Stamp
  | .pick _ => Nat
  | _ => Unit

abbrev Effect.interface : Interface := ⟨Effect, Effect.Reply⟩

abbrev Task (α : Type) := Program Effect.interface α

namespace Task

def effect (e : Effect) : Task e.Reply := Program.call (I := Effect.interface) e

def record (o : Occurrence) : Task Unit := do let _ ← effect (.record o)

def display (d : Display) : Task Unit := effect (.display d)

def check (path : FilePath) : Task Bool := effect (.check path)

def command (request : CommandRequest) : Task CommandOutcome := do
  effect (.start request)
  effect (.finish request)

def ask (question : Question) : Task (Except String String) := effect (.ask question)

def pause (label : StepLabel) (delay : Duration) : Task Unit := effect (.pause label delay)

def clock : Task Stamp := effect .clock

/-- Of the branches under way, given by their places, the one that goes on. -/
def pick (places : List Nat) : Task Nat := effect (.pick places)

def millisecondsSince (start : Timestamp) : Task Nat := do
  return (start.durationUntil (← clock).time).milliseconds

end Task

abbrev RunHost (σ : Type) := Host Effect.interface σ

abbrev RunDriven (σ α : Type) := Driven Effect.interface σ α

end Runbook
