import Runbook.Document

/-!
Documents written as JSON texts, on one line or with an indented line for every item and field.
-/

namespace Runbook.Json

def hexDigit (n : Nat) : Char := if n < 10 then Char.ofNat (48 + n) else Char.ofNat (87 + n)

/-- The characters that stand for one inside a string. -/
def escape (c : Char) : List Char :=
  if c == '"' then ['\\', '"']
  else if c == '\\' then ['\\', '\\']
  else if c == '\n' then ['\\', 'n']
  else if c == '\r' then ['\\', 'r']
  else if c == '\t' then ['\\', 't']
  else if c == '\x08' then ['\\', 'b']
  else if c == '\x0c' then ['\\', 'f']
  else if c.toNat < 0x20 then
    ['\\', 'u', '0', '0', hexDigit (c.toNat / 16), hexDigit (c.toNat % 16)]
  else [c]

def quoted (s : String) : String := String.ofList ('"' :: s.toList.flatMap escape ++ ['"'])

def realText (x : Float) : String := if x.isFinite then numberText x else "null"

def openBrace : String := "\x7b"

def closeBrace : String := "\x7d"

mutual

def compact : Document → String
  | .null => "null"
  | .bool b => if b then "true" else "false"
  | .integer n => toString n
  | .real x => realText x
  | .text s => quoted s
  | .list items => "[" ++ ",".intercalate (compactItems items) ++ "]"
  | .object fields => openBrace ++ ",".intercalate (compactFields fields) ++ closeBrace

def compactItems : List Document → List String
  | [] => []
  | d :: rest => compact d :: compactItems rest

def compactFields : List (String × Document) → List String
  | [] => []
  | (name, d) :: rest => (quoted name ++ ":" ++ compact d) :: compactFields rest

end

/-- Brackets around lines, each indented by two blanks more than the bracket. -/
def block (before : String) (lines : List String) (after : String) (depth : Nat) : String :=
  if lines.isEmpty then before ++ after
  else
    let margin := "\n".pushn ' ' (2 * depth)
    before ++ ",".intercalate (lines.map (margin ++ "  " ++ ·)) ++ margin ++ after

mutual

/-- A document with a line for every item and field, below a line of the given depth. -/
def prettyAt (depth : Nat) : Document → String
  | .null => "null"
  | .bool b => if b then "true" else "false"
  | .integer n => toString n
  | .real x => realText x
  | .text s => quoted s
  | .list items => block "[" (prettyItems (depth + 1) items) "]" depth
  | .object fields => block openBrace (prettyFields (depth + 1) fields) closeBrace depth

def prettyItems (depth : Nat) : List Document → List String
  | [] => []
  | d :: rest => prettyAt depth d :: prettyItems depth rest

def prettyFields (depth : Nat) : List (String × Document) → List String
  | [] => []
  | (name, d) :: rest => (quoted name ++ ": " ++ prettyAt depth d) :: prettyFields depth rest

end

def pretty (d : Document) : String := prettyAt 0 d

end Runbook.Json
