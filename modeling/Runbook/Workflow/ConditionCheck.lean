import Runbook.Document
import Runbook.Workflow.Basic
import Runbook.Workflow.Checked

/-!
Conditions read from documents. The first key that is recognised says what kind of condition an
object is; the members of a list are read up to the first that is none.
-/

namespace Runbook

theorem Bindings.sizeOf_lt_of_find? {α : Type} [SizeOf α] {m : Bindings α} {name : String} {a : α}
    (h : m.find? name = some a) : sizeOf a < sizeOf m := by
  induction m with
  | nil => simp [find?] at h
  | cons entry rest ih =>
    obtain ⟨k, v⟩ := entry
    simp only [find?] at h
    split at h
    · simp only [Option.some.injEq] at h
      subst h
      simp only [List.cons.sizeOf_spec, Prod.mk.sizeOf_spec]
      omega
    · have := ih h
      simp only [List.cons.sizeOf_spec]
      omega

theorem Document.sizeOf_field_lt {fields : List (String × Document)} {name : String} {d : Document}
    (h : Bindings.find? fields name = some d) : sizeOf d < sizeOf (Document.object fields) := by
  have hlt := Bindings.sizeOf_lt_of_find? h
  simp only [Document.object.sizeOf_spec]
  omega

theorem Document.sizeOf_items_lt {fields : List (String × Document)} {name : String}
    {items : List Document} (h : Bindings.find? fields name = some (.list items)) :
    sizeOf items < sizeOf (Document.object fields) := by
  have hlt := Document.sizeOf_field_lt h
  simp only [Document.list.sizeOf_spec] at hlt
  omega

namespace Condition

/-- The expected values of variables; each must be a string, a number or a boolean. -/
def expectedValues (location : Location) : List (String × Document) → Checked (Bindings String)
  | [] => .found []
  | (name, d) :: rest =>
    match d.scalarText? with
    | none => .issue (.varNotText name) location
    | some text => do
      let others ← expectedValues location rest
      return (name, text) :: others

def ofVar (location : Location) : Document → Checked Condition
  | .text name => .found (.varExists name)
  | .object fields => do return .varEquals (← expectedValues location fields)
  | _ => .issue .varNotNameOrMap location

def statusOf? (name : String) : Option FactStatus :=
  if name = "ready" then some .ready
  else if name = "failed" then some .failed
  else if name = "pending" then some .pending
  else none

def ofStatus (location : Location) (d : Document) : Checked Condition :=
  match (d.field? "fact").bind Document.asText?,
    ((d.field? "is").bind Document.asText?).bind statusOf? with
  | some fact, some expected => .found (.factStatus fact expected)
  | _, _ => .issue .statusIncomplete location

def ofStep (location : Location) (d : Document) : Checked Condition :=
  match (d.field? "success").bind Document.asBool? with
  | some success => .found (.lastStep success)
  | none => .issue .stepSuccess location

def ofLastStep (location : Location) (d : Document) : Checked Condition :=
  if d.asText? = some "success" then .found (.lastStep true)
  else if d.asText? = some "failure" then .found (.lastStep false)
  else .issue .lastStepOutcome location

def ofText (location : Location) (make : String → Condition) (fault : Fault) (d : Document) :
    Checked Condition :=
  match d.asText? with
  | some text => .found (make text)
  | none => .issue fault location

def leaf (location : Location) (fields : List (String × Document)) : Checked Condition :=
  if let some d := Bindings.find? fields "file" then ofText location .fileExists .fileNotPath d
  else if let some d := Document.present (Bindings.find? fields "var") then ofVar location d
  else if let some d := Bindings.find? fields "has" then ofText location .hasVar .hasNotName d
  else if let some d := Bindings.find? fields "status" then ofStatus location d
  else if let some d := Bindings.find? fields "step" then ofStep location d
  else if let some d := Bindings.find? fields "last_step" then ofLastStep location d
  else if let some d := Bindings.find? fields "choice" then
    ofText location .choiceMade .choiceNotOption d
  else .issue (.conditionUnknown (Bindings.names fields)) location

mutual

def check (location : Location) : Document → Checked Condition
  | .object fields =>
    match _hall : Bindings.find? fields "all" with
    | some (.list items) => do return .all (← checkMembers location items)
    | some _ => .issue (.conditionsNotList "all") location
    | none =>
      match _hany : Bindings.find? fields "any" with
      | some (.list items) => do return .any (← checkMembers location items)
      | some _ => .issue (.conditionsNotList "any") location
      | none =>
        match _hnot : Bindings.find? fields "not" with
        | some inner => do return .not (← check location inner)
        | none => leaf location fields
  | _ => .issue .conditionNotObject location
termination_by d => sizeOf d
decreasing_by
  · exact Document.sizeOf_items_lt _hall
  · exact Document.sizeOf_items_lt _hany
  · exact Document.sizeOf_field_lt _hnot

/-- The members of a list of conditions; the first that is none ends the reading. -/
def checkMembers (location : Location) : List Document → Checked (List Condition)
  | [] => .found []
  | d :: rest => do
    let c ← check location d
    let others ← checkMembers location rest
    return c :: others
termination_by items => sizeOf items

end

end Condition

end Runbook
