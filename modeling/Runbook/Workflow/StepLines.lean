import Runbook.Text.Blank
import Runbook.Text.Line

/-!
The lines that the steps of a workflow begin on, found in the text of the file.
-/

namespace Runbook.StepLines

/-- The number of bytes that a text takes in a file. -/
def byteLength (s : List Char) : Nat := s.foldl (fun n c => n + c.utf8Size) 0

/-- A line that is not empty and no comment: its number, its indentation in bytes, and the rest. -/
structure Content where
  number : Nat
  indent : Nat
  text : List Char

def contents (lines : List (List Char)) : List Content :=
  (lines.mapIdx fun i line =>
    let text := Text.trimStart line
    if text.isEmpty || text.head? == some '#' then none
    else some ⟨i + 1, byteLength line - byteLength text, text⟩).filterMap id

def isItem (c : Content) : Bool := c.text.head? == some '-'

/-- The numbers of the items in a column, up to the line that ends their list. -/
def itemLines (indent : Nat) : List Content → List Nat
  | [] => []
  | c :: rest =>
    if c.indent = indent ∧ isItem c then c.number :: itemLines indent rest
    else if c.indent ≤ indent then []
    else itemLines indent rest

/-- The lines of the steps of a YAML text: the items of the list below the first line that begins
with the key. -/
def ofYaml (s : List Char) : List Nat :=
  match (contents (Text.lines s)).dropWhile fun c => !"steps:".toList.isPrefixOf c.text with
  | _ :: first :: rest => if isItem first then itemLines first.indent (first :: rest) else []
  | _ => []

/-- Where a reading of a JSON text stands: the line, the number of open brackets, and whether it is
inside a string, or right after a backslash in one. -/
structure Place where
  line : Nat
  depth : Nat
  inString : Bool
  escaped : Bool

/-- The lines of the objects directly inside the outermost bracket. -/
def objectLines (p : Place) : List Char → List Nat
  | [] => []
  | c :: rest =>
    let p := if c == '\n' then { p with line := p.line + 1 } else p
    if p.inString then
      if p.escaped then objectLines { p with escaped := false } rest
      else if c == '\\' then objectLines { p with escaped := true } rest
      else if c == '"' then objectLines { p with inString := false } rest
      else objectLines p rest
    else if c == '"' then objectLines { p with inString := true } rest
    else if c == '[' || c == '\x7b' then
      let others := objectLines { p with depth := p.depth + 1 } rest
      if c == '\x7b' && p.depth == 1 then p.line :: others else others
    else if c == ']' || c == '\x7d' then
      if p.depth ≤ 1 then [] else objectLines { p with depth := p.depth - 1 } rest
    else objectLines p rest

/-- The lines of the steps of a JSON text: the objects in the first list after the first mention
of the key. -/
def ofJson (s : List Char) : List Nat :=
  match Text.cut "\"steps\"".toList s with
  | none => []
  | some (before, after) =>
    let between := "\"steps\"".toList ++ after.takeWhile (· ≠ '[')
    let start := 1 + before.count '\n' + between.count '\n'
    objectLines ⟨start, 0, false, false⟩ (after.dropWhile (· ≠ '['))

def indexed (lines : List Nat) : List (Nat × Nat) := lines.mapIdx fun i line => (i, line)

end Runbook.StepLines
