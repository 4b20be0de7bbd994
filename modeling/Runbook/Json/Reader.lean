import Runbook.Json.Token
import Runbook.Json.Number

/-!
JSON texts read as documents. The reader takes the tokens in turn and keeps the lists and objects
that are still open; it nests fewer than 128 of them.
-/

namespace Runbook.Json

/-- A list or an object that is still open, what it holds in reverse. -/
inductive Frame where
  | list (items : List Document)
  | object (fields : List (String × Document)) (name : String)

inductive Mode where
  | value | firstItem | firstName | name | colon | separator
  | done (document : Document)

structure Reader where
  mode : Mode
  frames : List Frame

namespace Reader

def start : Reader := ⟨.value, []⟩

/-- Puts a finished value into the innermost open list or object. -/
def put (v : Document) : List Frame → Reader
  | [] => ⟨.done v, []⟩
  | .list items :: rest => ⟨.separator, .list (v :: items) :: rest⟩
  | .object fields name :: rest => ⟨.separator, .object ((name, v) :: fields) name :: rest⟩

def nestingLimit : Nat := 127

def enter (frame : Frame) (mode : Mode) (frames : List Frame) : Option Reader :=
  if frames.length < nestingLimit then some ⟨mode, frame :: frames⟩ else none

def value (t : Token) (frames : List Frame) : Option Reader :=
  match t with
  | .null => some (put .null frames)
  | .bool b => some (put (.bool b) frames)
  | .text s => some (put (.text s) frames)
  | .number s => (number? s).map fun d => put d frames
  | .openList => enter (.list []) .firstItem frames
  | .openObject => enter (.object [] "") .firstName frames
  | _ => none

def close (t : Token) : List Frame → Option Reader
  | .list items :: rest => if t = .closeList then some (put (.list items.reverse) rest) else none
  | .object fields _ :: rest =>
    if t = .closeObject then some (put (.object fields.reverse) rest) else none
  | [] => none

def name (t : Token) : List Frame → Option Reader
  | .object fields _ :: rest =>
    match t with
    | .text s => some ⟨.colon, .object fields s :: rest⟩
    | _ => none
  | _ => none

def step (r : Reader) (t : Token) : Option Reader :=
  match r.mode with
  | .value => value t r.frames
  | .firstItem => if t = .closeList then close t r.frames else value t r.frames
  | .firstName => if t = .closeObject then close t r.frames else name t r.frames
  | .name => name t r.frames
  | .colon => if t = .colon then some ⟨.value, r.frames⟩ else none
  | .separator =>
    if t = .comma then
      match r.frames with
      | .list _ :: _ => some ⟨.value, r.frames⟩
      | .object .. :: _ => some ⟨.name, r.frames⟩
      | [] => none
    else close t r.frames
  | .done _ => none

def run (r : Reader) : List Token → Option Reader
  | [] => some r
  | t :: rest => (r.step t).bind fun next => run next rest

end Reader

/-- The document that a JSON text writes, its fields in the order of the text. -/
def read? (s : String) : Option Document := do
  let tokens ← tokens? s.toList
  let reader ← Reader.start.run tokens
  match reader.mode with
  | .done document => some document
  | _ => none

end Runbook.Json
