import Runbook.Time.Timestamp

/-!
Histories: what happened in a run, event by event.
-/

namespace Runbook

/-- What a step came to use: the command as it ran, the option chosen, or the text entered. -/
inductive ResolvedValue where
  | command (text : String)
  | choice (id : String)
  | prompt (text : String)
  deriving DecidableEq, Repr

/-- What happened in a run. Steps and branches are counted from zero, times are in milliseconds. -/
inductive Occurrence where
  | runStarted (workflowName : Option String) (stepCount : Nat)
  | runCompleted (milliseconds : Nat)
  | runFailed (error : String) (milliseconds : Nat)
  | stepSkipped (step : Nat) (branch : Option Nat)
  | stepCompleted (step : Nat) (branch : Option Nat) (kind : String)
      (resolved : Option ResolvedValue) (exitCode : Option Int) (milliseconds : Nat)
  | stepFailed (step : Nat) (branch : Option Nat) (kind : String)
      (resolved : Option ResolvedValue) (exitCode : Option Int) (error : String)
      (milliseconds : Nat)
  | stepRetried (step : Nat) (branch : Option Nat) (attempt : Nat) (delay : Nat)
  | fallbackStarted (step : Nat) (branch : Option Nat) (level : Nat) (command : String)
  | parallelStarted (step : Nat) (branches : Nat)
  | parallelFinished (step : Nat) (success : Bool)
  deriving DecidableEq, Repr

def Occurrence.isStepResult : Occurrence → Bool
  | .stepCompleted .. => true
  | .stepFailed .. => true
  | _ => false

/-- An occurrence with its own name, that of its run, and its time. -/
structure Event where
  id : String
  runId : String
  time : Timestamp
  occurrence : Occurrence
  deriving DecidableEq, Repr

structure History where
  runId : String
  workflowName : Option String
  start : Timestamp
  events : List Event
  deriving DecidableEq, Repr

namespace History

def stepResults (h : History) : List Event := h.events.filter (·.occurrence.isStepResult)

/-- The milliseconds from the start to the last event; an event before the start does not count. -/
def elapsedMilliseconds (h : History) : Nat :=
  match h.events.getLast? with
  | some event => (h.start.durationUntil event.time).milliseconds
  | none => 0

end History

end Runbook
