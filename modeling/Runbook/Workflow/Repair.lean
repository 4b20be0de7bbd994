import Runbook.Document

/-!
Repair of steps that lost an indentation: fields that belong under a `choose` or a `prompt` key
but stand beside it, the key itself left empty, are moved under it.
-/

namespace Runbook.Repair

def takeFields (names : List String) (fields : List (String × Document)) :
    List (String × Document) × List (String × Document) :=
  fields.partition fun field => names.contains field.1

def nestUnder (key : String) (names : List String) (fields : List (String × Document)) :
    List (String × Document) :=
  let (taken, rest) := takeFields names fields
  Bindings.bind rest key (.object taken)

def isNullField (fields : List (String × Document)) (name : String) : Bool :=
  match Bindings.find? fields name with
  | some .null => true
  | _ => false

def chooseNames : List String := ["message", "options", "as"]

def promptNames : List String := ["message", "as", "default"]

/-- Whether the fields of a `choose` step stand beside its empty key. -/
def isBrokenChoose (fields : List (String × Document)) : Bool :=
  isNullField fields "choose" && Bindings.isBound fields "message" &&
    Bindings.isBound fields "options"

def isBrokenPrompt (fields : List (String × Document)) : Bool :=
  isNullField fields "prompt" && Bindings.isBound fields "message" && Bindings.isBound fields "as"

mutual

def step : Document → Document
  | .object fields =>
    if isBrokenChoose fields then .object (nestUnder "choose" chooseNames fields)
    else if isBrokenPrompt fields then .object (nestUnder "prompt" promptNames fields)
    else .object (branches fields)
  | d => d

def branches : List (String × Document) → List (String × Document)
  | [] => []
  | (name, .list items) :: rest =>
    (name, .list (if name = "parallel" then steps items else items)) :: branches rest
  | field :: rest => field :: branches rest

def steps : List Document → List Document
  | [] => []
  | d :: rest => step d :: steps rest

end

def document : Document → Document
  | .object fields => .object (fields.map fun
    | ("steps", .list items) => ("steps", .list (steps items))
    | field => field)
  | d => d

end Runbook.Repair
