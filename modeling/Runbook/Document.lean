import Runbook.Word
import Runbook.Bindings
import Runbook.Decimal.Shortest

/-!
Documents: the values that configuration and data files hold. The fields of an object stand in the
order in which they are written; a settled document has them sorted, each name once.
-/

namespace Runbook

/-- A value of a configuration or data file. -/
inductive Document where
  | null
  | bool (value : Bool)
  | integer (value : Int)
  | real (value : Float)
  | text (value : String)
  | list (items : List Document)
  | object (fields : List (String × Document))
  deriving Inhabited

namespace Document

/-- The least and the greatest integer a document holds: a signed or an unsigned 64-bit word. -/
def leastInteger : Int := -(Word.count 63 : Int)

def greatestInteger : Int := Word.greatest 64

def holdsInteger (n : Int) : Bool := leastInteger ≤ n && n ≤ greatestInteger

/-- A real number as a document; what is not finite has no document and becomes null. -/
def ofFloat (x : Float) : Document := if x.isFinite then .real x else .null

/-- The value of a field; of a field written more than once, the last one. -/
def lastField? (fields : List (String × Document)) (name : String) : Option Document :=
  Bindings.find? fields.reverse name

mutual

/-- The document with the fields of every object sorted; of a repeated field the last stays. -/
def settled : Document → Document
  | .list items => .list (settledItems items)
  | .object fields => .object (Bindings.ofPairs (settledFields fields))
  | d => d

def settledItems : List Document → List Document
  | [] => []
  | d :: rest => settled d :: settledItems rest

def settledFields : List (String × Document) → List (String × Document)
  | [] => []
  | (name, d) :: rest => (name, settled d) :: settledFields rest

end

theorem settledItems_eq_map (items : List Document) : settledItems items = items.map settled := by
  induction items with
  | nil => rfl
  | cons d rest ih => rw [settledItems, ih, List.map_cons]

theorem settledFields_eq_map (fields : List (String × Document)) :
    settledFields fields = fields.map fun field => (field.1, settled field.2) := by
  induction fields with
  | nil => rfl
  | cons field rest ih => rw [settledFields, ih, List.map_cons]

def field? (d : Document) (name : String) : Option Document :=
  match d with
  | .object fields => Bindings.find? fields name
  | _ => none

def asText? : Document → Option String
  | .text s => some s
  | _ => none

def asBool? : Document → Option Bool
  | .bool b => some b
  | _ => none

def asList? : Document → Option (List Document)
  | .list items => some items
  | _ => none

def asObject? : Document → Option (List (String × Document))
  | .object fields => some fields
  | _ => none

def asFloat? : Document → Option Float
  | .integer n => some (Float.ofInt n)
  | .real x => some x
  | _ => none

/-- A value that is there and not null. -/
def present : Option Document → Option Document
  | some .null => none
  | other => other

def scalarText? : Document → Option String
  | .text s => some s
  | .integer n => some (toString n)
  | .real x => some (numberText x)
  | .bool b => some (if b then "true" else "false")
  | _ => none

end Document

end Runbook
