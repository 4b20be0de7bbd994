import Runbook.Word
import Runbook.Document

/-!
Records in documents: objects with fields of fixed names, written in a fixed order. A record may be
read from an object, where other fields do not count and no field stands twice, or from the list of
its fields in order, of which some at the end may be left out.
-/

namespace Runbook.Record

def isRepeated (fields : List (String × Document)) (name : String) : Bool :=
  1 < (fields.filter fun f => f.1 == name).length

/-- The values of the fields with the names, in the order of the names. A list may lack the last
fields, as many as are spare. -/
def fields? (names : List String) (spare : Nat) : Document → Option (List (Option Document))
  | .object fields =>
    if names.any (isRepeated fields) then none else some (names.map (Bindings.find? fields))
  | .list items =>
    if items.length ≤ names.length ∧ names.length ≤ items.length + spare then
      some (items.map some ++ List.replicate (names.length - items.length) none)
    else none
  | _ => none

/-- The tag of a record that is one of several kinds, and the record without it. -/
def tagged? (tag : String) : Document → Option (String × Document)
  | .object fields =>
    if isRepeated fields tag then none
    else match Bindings.find? fields tag with
      | some (.text kind) => some (kind, .object (fields.filter fun f => f.1 != tag))
      | _ => none
  | .list (.text kind :: items) => some (kind, .list items)
  | _ => none

/-! ### Values of fields -/

def required? {α : Type} (read? : Document → Option α) (value : Option Document) : Option α :=
  value.bind read?

def optional? {α : Type} (read? : Document → Option α) (value : Option Document) :
    Option (Option α) :=
  match value with
  | none => some none
  | some .null => some none
  | some d => (read? d).map some

def natural? (bound : Nat) : Document → Option Nat
  | .integer n => if 0 ≤ n ∧ n < bound then some n.toNat else none
  | _ => none

def word64? : Document → Option Nat := natural? (Word.count 64)

def word32? : Document → Option Nat := natural? (Word.count 32)

def signed32? : Document → Option Int
  | .integer n => if Word.isSigned 32 n then some n else none
  | _ => none

/-- The name of one of several kinds: a text, or the name of the only field of an object, in which
nothing stands. -/
def kindName? : Document → Option String
  | .text name => some name
  | .object [(name, .null)] => some name
  | .object [(name, .object [])] => some name
  | _ => none

def listOf? {α : Type} (read? : Document → Option α) : Document → Option (List α)
  | .list items => items.mapM read?
  | _ => none

/-! ### Writing -/

def orNull {α : Type} (write : α → Document) : Option α → Document
  | some a => write a
  | none => .null

def natural (n : Nat) : Document := .integer n

def present {α : Type} (name : String) (write : α → Document) :
    Option α → List (String × Document)
  | some a => [(name, write a)]
  | none => []

end Runbook.Record
