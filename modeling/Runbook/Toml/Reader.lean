import Runbook.Toml.Scalar
import Runbook.Toml.Table

/-!
TOML texts read as documents. A time becomes an object of one field that no other value has. `fuel`
bounds the length of what is read; `depth` is how much deeper lists and tables may be nested.
-/

namespace Runbook.Toml

namespace Reading

/-- A character of a key without quotes. -/
def isBare (c : Char) : Bool := c.isAlphanum || c == '_' || c == '-'

def keyPart (fuel : Nat) : Reading String := do
  if ← accept "\"" then return String.ofList (← basicText fuel)
  else if ← accept "'" then return String.ofList (← literalText)
  else
    let bare ← takeWhile isBare
    if bare.isEmpty then refuse else return String.ofList bare

/-- The number of lists and tables that may be nested, and of parts that a key may have. -/
def nestingLimit : Nat := 79

def keyParts : Nat → Reading (List String)
  | 0 => refuse
  | fuel + 1 => do
    skipBlanks
    let part ← keyPart fuel
    skipBlanks
    if ← accept "." then return part :: (← keyParts fuel) else return [part]

def key (fuel : Nat) : Reading (List String) := do
  let parts ← keyParts fuel
  if parts.length ≤ nestingLimit then return parts else refuse

def timeField : String := "$time"

/-- A character that ends a value without quotes. -/
def endsScalar (c : Char) : Bool :=
  isBlank c || isControl c || c == ',' || c == ']' || c == '\x7d' || c == '#'

def plainValue : Reading Document := do
  let s ← ahead
  match time? s with
  | some rest =>
    let written := s.take (s.length - rest.length)
    skip written.length
    return .object [(timeField, .text (String.ofList written))]
  | none =>
    let word ← takeWhile fun c => !endsScalar c
    if word == ['t', 'r', 'u', 'e'] then return .bool true
    else if word == ['f', 'a', 'l', 's', 'e'] then return .bool false
    else match integer? word, float? word with
      | some n, _ => return .integer n
      | none, some x => return .real x
      | none, none => refuse

mutual

def value (depth : Nat) : Nat → Reading Document
  | 0 => refuse
  | fuel + 1 => do
    match ← text? fuel with
    | some s => return .text s
    | none =>
      if ← accept "[" then
        if depth = 0 then refuse else return .list (← items (depth - 1) fuel)
      else if ← accept "\x7b" then
        skipBlanks
        if depth = 0 then refuse
        else if ← accept "\x7d" then return .object []
        else return .object (fieldsOf (← fields (depth - 1) fuel []))
      else plainValue

def items (depth : Nat) : Nat → Reading (List Document)
  | 0 => refuse
  | fuel + 1 => do
    skipLines fuel
    if ← accept "]" then return []
    else
      let d ← value depth fuel
      skipLines fuel
      if ← accept "," then return d :: (← items depth fuel)
      else
        expect "]"
        return [d]

def fields (depth : Nat) : Nat → Entries → Reading Entries
  | 0, _ => refuse
  | fuel + 1, entries => do
    let path ← key fuel
    expect "="
    skipBlanks
    let d ← value depth fuel
    match entries.addValue d path with
    | none => refuse
    | some entries =>
      skipBlanks
      if ← accept "," then fields depth fuel entries
      else
        expect "\x7d"
        return entries

end

def lineEnd : Reading Unit := do
  skipBlanks
  skipComment
  if (← ahead).isEmpty then return ()
  else if ← acceptLineEnd then return ()
  else refuse

/-- The header of a table, or of one of a list of tables: which of both, and its key. -/
def header (fuel : Nat) : Reading (Bool × List String) := do
  let isRow ← accept "["
  let path ← key fuel
  expect (if isRow then "]]" else "]")
  lineEnd
  return (isRow, path)

/-- The lines of a text: headers, and keys with their values in the table opened last. -/
def lines (current : List String) (entries : Entries) : Nat → Reading Entries
  | 0 => refuse
  | fuel + 1 => do
    skipLines fuel
    if (← ahead).isEmpty then return entries
    else if ← accept "[" then
      let (isRow, path) ← header fuel
      match entries.open? isRow path with
      | some entries => lines path entries fuel
      | none => refuse
    else
      let path ← key fuel
      expect "="
      skipBlanks
      let d ← value nestingLimit fuel
      lineEnd
      match entries.changeAt (Entries.addValue d path) current with
      | some entries => lines current entries fuel
      | none => refuse

end Reading

def read? (text : String) : Option Document :=
  let s := match text.toList with
    | '\ufeff' :: rest => rest
    | s => s
  ((Reading.lines [] [] (2 * s.length + 4)).run' s).map fun entries => .object (fieldsOf entries)

end Runbook.Toml
