import Runbook.Record
import Runbook.Json.Reader
import Runbook.Json.Writer
import Runbook.Time.Reading
import Runbook.History.Basic

/-!
Histories as documents and as the texts of files.
-/

namespace Runbook

namespace RunId

def groups : List Nat := [8, 4, 4, 4, 12]

def hyphenated (digits : List Char) : List Nat → List Char
  | [] => []
  | [n] => digits.take n
  | n :: rest => digits.take n ++ '-' :: hyphenated (digits.drop n) rest

def isHexadecimal (c : Char) : Bool := (Json.hexDigit? c).isSome

/-- The name of 32 hexadecimal digits in its groups, in small letters. -/
def ofDigits? (digits : List Char) : Option String :=
  if digits.length = 32 ∧ digits.all isHexadecimal then
    some (String.ofList (hyphenated (digits.map Char.toLower) groups))
  else none

def ungrouped? (s : List Char) : Option (List Char) :=
  let digits := s.filter (· ≠ '-')
  if digits.length = 32 ∧ s = hyphenated digits groups then some digits else none

/-- The digits of the forms of a name: bare, in groups, in braces, or as a resource name. -/
def digits? (s : List Char) : Option (List Char) :=
  if s.length = 32 then some s
  else if s.length = 36 then ungrouped? s
  else if s.length = 38 ∧ s.head? = some '\x7b' ∧ s.getLast? = some '\x7d' then
    ungrouped? (s.drop 1).dropLast
  else if s.length = 45 ∧ s.take 9 = "urn:uuid:".toList then ungrouped? (s.drop 9)
  else none

def read? (s : String) : Option String := (digits? s.toList).bind ofDigits?

end RunId

namespace History

open Record

/-! ### Writing -/

def resolvedDocument : ResolvedValue → Document
  | .command s => .object [("kind", .text "command"), ("value", .text s)]
  | .choice s => .object [("kind", .text "choice"), ("value", .text s)]
  | .prompt s => .object [("kind", .text "prompt"), ("value", .text s)]

def occurrenceFields : Occurrence → String × List (String × Document)
  | .runStarted name count =>
    ("run_started", [("workflow_name", orNull .text name), ("step_count", natural count)])
  | .runCompleted ms => ("run_completed", [("duration_ms", natural ms)])
  | .runFailed error ms => ("run_failed", [("error", .text error), ("duration_ms", natural ms)])
  | .stepSkipped step branch =>
    ("step_skipped", [("step_index", natural step), ("branch_index", orNull natural branch)])
  | .stepCompleted step branch kind resolved exitCode ms =>
    ("step_completed", [("step_index", natural step), ("branch_index", orNull natural branch),
      ("kind", .text kind), ("resolved", orNull resolvedDocument resolved),
      ("exit_code", orNull .integer exitCode), ("duration_ms", natural ms)])
  | .stepFailed step branch kind resolved exitCode error ms =>
    ("step_failed", [("step_index", natural step), ("branch_index", orNull natural branch),
      ("kind", .text kind), ("resolved", orNull resolvedDocument resolved),
      ("exit_code", orNull .integer exitCode), ("error", .text error),
      ("duration_ms", natural ms)])
  | .stepRetried step branch attempt delay =>
    ("step_retried", [("step_index", natural step), ("branch_index", orNull natural branch),
      ("attempt", natural attempt), ("delay_ms", natural delay)])
  | .fallbackStarted step branch level command =>
    ("fallback_started", [("step_index", natural step), ("branch_index", orNull natural branch),
      ("level", natural level), ("command", .text command)])
  | .parallelStarted step branches =>
    ("parallel_started", [("step_index", natural step), ("branches", natural branches)])
  | .parallelFinished step success =>
    ("parallel_finished", [("step_index", natural step), ("success", .bool success)])

def occurrenceDocument (o : Occurrence) : Document :=
  let (kind, fields) := occurrenceFields o
  .object (("type", .text kind) :: fields)

def eventDocument (e : Event) : Document :=
  .object [("id", .text e.id), ("run_id", .text e.runId), ("timestamp", .text e.time.text),
    ("event_type", occurrenceDocument e.occurrence)]

def document (h : History) : Document :=
  .object [("run_id", .text h.runId), ("workflow_name", orNull .text h.workflowName),
    ("initial_timestamp", .text h.start.text), ("events", .list (h.events.map eventDocument))]

def fileText (h : History) : String := Json.pretty h.document

/-! ### Reading -/

def timestamp? : Document → Option Timestamp
  | .text s => Timestamp.read? s
  | _ => none

def runId? : Document → Option String
  | .text s => RunId.read? s
  | _ => none

def resolved? (d : Document) : Option ResolvedValue := do
  match ← fields? ["kind", "value"] 0 d with
  | [kind, value] =>
    let text ← required? Document.asText? value
    match ← required? kindName? kind with
    | "command" => return .command text
    | "choice" => return .choice text
    | "prompt" => return .prompt text
    | _ => none
  | _ => none

def fieldNames : String → List String
  | "run_started" => ["workflow_name", "step_count"]
  | "run_completed" => ["duration_ms"]
  | "run_failed" => ["error", "duration_ms"]
  | "step_skipped" => ["step_index", "branch_index"]
  | "step_completed" =>
    ["step_index", "branch_index", "kind", "resolved", "exit_code", "duration_ms"]
  | "step_failed" =>
    ["step_index", "branch_index", "kind", "resolved", "exit_code", "error", "duration_ms"]
  | "step_retried" => ["step_index", "branch_index", "attempt", "delay_ms"]
  | "fallback_started" => ["step_index", "branch_index", "level", "command"]
  | "parallel_started" => ["step_index", "branches"]
  | "parallel_finished" => ["step_index", "success"]
  | _ => []

def ofFields? (kind : String) (fields : List (Option Document)) : Option Occurrence :=
  let word := required? word64?
  let text := required? Document.asText?
  let branch := optional? word64?
  match kind, fields with
  | "run_started", [name, count] => do
    return .runStarted (← optional? Document.asText? name) (← word count)
  | "run_completed", [ms] => do return .runCompleted (← word ms)
  | "run_failed", [error, ms] => do return .runFailed (← text error) (← word ms)
  | "step_skipped", [step, index] => do return .stepSkipped (← word step) (← branch index)
  | "step_completed", [step, index, kind, resolved, exitCode, ms] => do
    return .stepCompleted (← word step) (← branch index) (← text kind)
      (← optional? resolved? resolved) (← optional? signed32? exitCode) (← word ms)
  | "step_failed", [step, index, kind, resolved, exitCode, error, ms] => do
    return .stepFailed (← word step) (← branch index) (← text kind)
      (← optional? resolved? resolved) (← optional? signed32? exitCode) (← text error) (← word ms)
  | "step_retried", [step, index, attempt, delay] => do
    return .stepRetried (← word step) (← branch index) (← required? word32? attempt) (← word delay)
  | "fallback_started", [step, index, level, command] => do
    return .fallbackStarted (← word step) (← branch index) (← word level) (← text command)
  | "parallel_started", [step, branches] => do
    return .parallelStarted (← word step) (← word branches)
  | "parallel_finished", [step, success] => do
    return .parallelFinished (← word step) (← required? Document.asBool? success)
  | _, _ => none

def occurrence? (d : Document) : Option Occurrence := do
  let (kind, rest) ← tagged? "type" d
  ofFields? kind (← fields? (fieldNames kind) 0 rest)

def event? (d : Document) : Option Event := do
  match ← fields? ["id", "run_id", "timestamp", "event_type"] 0 d with
  | [id, run, time, occurrence] =>
    return ⟨← required? Document.asText? id, ← required? runId? run,
      ← required? timestamp? time, ← required? occurrence? occurrence⟩
  | _ => none

def ofDocument? (d : Document) : Option History := do
  match ← fields? ["run_id", "workflow_name", "initial_timestamp", "events"] 0 d with
  | [run, name, start, events] =>
    return ⟨← required? runId? run, ← optional? Document.asText? name,
      ← required? timestamp? start, ← required? (listOf? event?) events⟩
  | _ => none

def read? (text : String) : Option History := (Json.read? text).bind ofDocument?

end History

end Runbook
