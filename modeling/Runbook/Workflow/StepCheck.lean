import Runbook.Text.Blank
import Runbook.Workflow.ConditionCheck

/-!
Steps read from documents. Every part that can be read apart from the others is checked, so that
all issues of a step are met at once.
-/

namespace Runbook

open Document (present)

def filledText? (d : Option Document) : Option String :=
  (d.bind Document.asText?).filter fun s => !isBlank s

/-- A text without blanks at its ends and with something in it. -/
def trimmedText? (d : Option Document) : Option String :=
  ((d.bind Document.asText?).map trimmed).filter fun s => !s.isEmpty

abbrev Fields := List (String × Document)

namespace Fields

variable (fields : Fields)

def get? (name : String) : Option Document := Bindings.find? fields name

def has (name : String) : Bool := Bindings.isBound fields name

end Fields

def optionalText (d : Option Document) (fault : Fault) (location : Location) :
    Checked (Option String) :=
  match present d with
  | none => .found none
  | some (.text s) => .found (some s)
  | some _ => (Checked.issue fault location).optional

namespace RunStep

def commandText (d : Option Document) (field : String) (location : Location) : Checked String :=
  match d with
  | some (.text s) => if isBlank s then .issue (.commandEmpty field) location else .found s
  | _ => .issue (.commandNotText field) location

def timeoutOf (d : Option Document) (location : Location) : Checked (Option Duration) :=
  match present d with
  | none => .found none
  | some d =>
    match d.asFloat? with
    | some seconds =>
      if seconds.isFinite && 0 ≤ seconds then
        match Duration.ofFloat? seconds with
        | some timeout => .found (some timeout)
        | none => (Checked.issue .timeoutTooLarge location).optional
      else (Checked.issue .timeoutNotDuration location).optional
    | none => (Checked.issue .timeoutNotDuration location).optional

/-- A whole number that is not negative, cut at the greatest count. -/
def countOf? (x : Float) : Option Retry :=
  if 0 ≤ x && x.floor == x then
    some (.count (UInt32.ofNat (min x.toUInt64.toNat (Word.greatest 32))))
  else none

def retryOf (d : Option Document) (location : Location) : Checked Retry :=
  match present d with
  | none => .found .never
  | some (.text "Infinity") => .found .forever
  | some d =>
    match d.asFloat?.bind countOf? with
    | some retry => .found retry
    | none => do
      let _ ← (Checked.issue (α := Retry) .retryNotCount location).optional
      return .never

/-- The program and the arguments before a command; the first part that is no text is reported. -/
def shellParts (location : Location) (index : Nat) : List Document → Checked (List String)
  | [] => .found []
  | .text s :: rest => do return s :: (← shellParts location (index + 1) rest)
  | _ :: _ => .issue (.shellPartNotText index) location

def shellOf (d : Option Document) (location : Location) : Checked (Option (List String)) :=
  match present d with
  | none => .found none
  | some (.list []) => (Checked.issue .shellEmpty location).optional
  | some (.list items) => (shellParts location 0 items).optional
  | some _ => (Checked.issue .shellNotList location).optional

def continueOf (d : Option Document) (location : Location) : Checked Bool :=
  match present d with
  | none => .found false
  | some (.bool b) => .found b
  | some _ => do
    let _ ← (Checked.issue (α := Bool) .continueNotBool location).optional
    return false

/-- The commands that are tried one after the other when the command before fails. -/
def fallbacksOf (location : Location) : Document → Checked (List Fallback)
  | .object fields => do
    let command ← commandText (Bindings.find? fields "run") "onError.run" location
    let timeout ← timeoutOf (Bindings.find? fields "timeout") location
    let retry ← retryOf (Bindings.find? fields "retry") location
    match _h : Bindings.find? fields "onError" with
    | none | some .null => return [⟨command, timeout, retry⟩]
    | some next =>
      let others ← fallbacksOf location next
      return ⟨command, timeout, retry⟩ :: others
  | _ => .issue .onErrorNotObject location
termination_by d => sizeOf d
decreasing_by exact Document.sizeOf_field_lt _h

def captureText (fields : Fields) (index : Nat) (key : String) (location : Location) :
    Checked String :=
  match fields.get? key with
  | some (.text s) => .found s
  | some _ => .issue (.captureNotText index key) location
  | none => .ofOption none

/-- A double as a 64-bit integer: cut toward zero, and at the ends of the range. -/
def boundOf (x : Float) : Int64 := x.toInt64

/-- What a capture rule takes: the first of the keys that is there says how. -/
def extractionOf (fields : Fields) (index : Nat) (location : Location) : Checked Extraction :=
  let text := fun key => captureText fields index key location
  if fields.has "regex" then do return .pattern (← text "regex")
  else if fields.has "json" then do return .jsonPath (← text "json")
  else if fields.has "yaml" then do return .yamlPath (← text "yaml")
  else if fields.has "yml" then do return .yamlPath (← text "yml")
  else if fields.has "kv" then do return .keyValue (← text "kv")
  else if fields.has "after" && fields.has "before" then do
    let after ← text "after"
    let before ← text "before"
    return .between after before
  else if fields.has "after" then do return .after (← text "after")
  else if fields.has "before" then do return .before (← text "before")
  else if let some range := fields.get? "line" then
    let bound := fun key => ((range.field? key).bind Document.asFloat?).map boundOf
    match bound "from", bound "to" with
    | some first, some last => .found (.lines first last)
    | _, _ => .issue (.captureLines index) location
  else .found .full

def captureOf (location : Location) (index : Nat) : Document → Checked CaptureRule
  | .object fields =>
    match trimmedText? (Fields.get? fields "as") with
    | none => .issue (.captureName index) location
    | some name => do return ⟨name, ← extractionOf fields index location⟩
  | _ => .issue (.captureNotObject index) location

def capturesOf (d : Option Document) (location : Location) : Checked (List CaptureRule) :=
  match present d with
  | none => .found []
  | some (.list items) => .all (items.mapIdx (captureOf location))
  | some _ => .issue .capturesNotList location

def check (fields : Fields) (location : Location) : Checked RunStep := do
  let command ← commandText (fields.get? "run") "run" location
  let timeout ← timeoutOf (fields.get? "timeout") location
  let retry ← retryOf (fields.get? "retry") location
  let shell ← shellOf (fields.get? "shell") location
  let continueOnError ← continueOf (fields.get? "continue") location
  let fallbacks ← match present (fields.get? "onError") with
    | none => .found []
    | some d => fallbacksOf location d
  let captures ← capturesOf (fields.get? "captures") location
  return { command, timeout, retry, shell, continueOnError, fallbacks, captures }

end RunStep

namespace ChooseStep

def optionOf (location : Location) (index : Nat) (d : Document) : Checked ChoiceOption := do
  let id ← match filledText? (d.field? "id") with
    | some id => .found (some id)
    | none => (Checked.issue (.optionId index) location).optional
  let label ← match filledText? (d.field? "label") with
    | some label => .found (some label)
    | none => (Checked.issue (.optionLabel index) location).optional
  match id, label with
  | some id, some label => return ⟨id, label⟩
  | _, _ => .ofOption none

def optionsOf (d : Option Document) (location : Location) : Checked (List ChoiceOption) :=
  match d with
  | some (.list []) => .issue .chooseOptionsEmpty location
  | some (.list items) => .all (items.mapIdx (optionOf location))
  | _ => .issue .chooseOptionsNotList location

def check (d : Option Document) (location : Location) : Checked ChooseStep :=
  match d with
  | some (.object fields) => do
    let message ← match filledText? (Fields.get? fields "message") with
      | some message => .found (some message)
      | none => (Checked.issue .chooseMessage location).optional
    let options ← (optionsOf (Fields.get? fields "options") location).optional
    let storeAs ← optionalText (Fields.get? fields "as") .chooseName location
    match message, options with
    | some message, some options => return { message, options, storeAs }
    | _, _ => .ofOption none
  | _ => .issue .chooseNotObject location

end ChooseStep

namespace PromptStep

def check (d : Option Document) (location : Location) : Checked PromptStep :=
  match d with
  | some (.object fields) => do
    let message ← match filledText? (Fields.get? fields "message") with
      | some message => .found (some message)
      | none => (Checked.issue .promptMessage location).optional
    let storeAs ← match filledText? (Fields.get? fields "as") with
      | some storeAs => .found (some storeAs)
      | none => (Checked.issue .promptName location).optional
    let default ← match present (Fields.get? fields "default") with
      | none => .found none
      | some d =>
        match d.scalarText? with
        | some text => .found (some text)
        | none => (Checked.issue .promptDefault location).optional
    match message, storeAs with
    | some message, some storeAs => return { message, storeAs, default }
    | _, _ => .ofOption none
  | _ => .issue .promptNotObject location

end PromptStep

/-- The message of a step that stops the workflow: a text, or an object with one. -/
def failMessage (d : Option Document) (location : Location) : Checked String :=
  let message := match d with
    | some (.text s) => some s
    | some (.object fields) => filledText? (Fields.get? fields "message")
    | _ => none
  match message.filter (fun s => !isBlank s) with
  | some message => .found message
  | none => .issue .failMessage location

/-- The kind of a step: the only key of its object that names one. -/
def kindOf (fields : Fields) (location : Location) : Checked String :=
  match stepKinds.filter fields.has with
  | [kind] => .found kind
  | [] => .issue (.stepKindUnknown ((Bindings.names fields).filter (· ≠ "when"))) location
  | several => .issue (.stepKindsSeveral several) location

def guardOf (fields : Fields) (location : Location) : Checked (Option Condition) :=
  match present (fields.get? "when") with
  | none => .found none
  | some d => do return some (← Condition.check location d)

/-- One branch of a parallel step. Its kind must not ask the user or run branches of its own. -/
def Branch.check (step branch : Nat) : Document → Checked Branch
  | .object fields => do
    let location := Location.branch step branch
    let kind ← kindOf fields location
    let guard ← guardOf fields location
    if kind = "run" then return ⟨guard, .run (← RunStep.check fields location)⟩
    else if kind = "fail" then
      return ⟨guard, .fail (← failMessage (Fields.get? fields "fail") location)⟩
    else if kind = "parallel" then .issue .parallelNested location
    else .issue (.notInParallel kind) location
  | _ => .issue .stepNotObject (.branch step branch)

def branchesOf (d : Option Document) (index : Nat) : Checked (List Branch) :=
  match d with
  | some (.list []) => .issue .parallelEmpty (.step index)
  | some (.list items) => .all (items.mapIdx (Branch.check index))
  | _ => .issue .parallelNotList (.step index)

def Step.check (index : Nat) : Document → Checked Step
  | .object fields => do
    let location := Location.step index
    let kind ← kindOf fields location
    let guard ← guardOf fields location
    if kind = "run" then return ⟨guard, .action (.run (← RunStep.check fields location))⟩
    else if kind = "choose" then
      return ⟨guard, .action (.choose (← ChooseStep.check (Fields.get? fields "choose") location))⟩
    else if kind = "prompt" then
      return ⟨guard, .action (.prompt (← PromptStep.check (Fields.get? fields "prompt") location))⟩
    else if kind = "parallel" then
      return ⟨guard, .parallel (← branchesOf (Fields.get? fields "parallel") index)⟩
    else return ⟨guard, .action (.fail (← failMessage (Fields.get? fields "fail") location))⟩
  | _ => .issue .stepNotObject (.step index)

end Runbook
