import Runbook.Text.Line

/-!
Paths of files: names with slashes between them. A dot as a name is left out except at the start,
and so are empty names.
-/

namespace Runbook

abbrev FilePath := String

namespace FilePath

def isAbsolute (p : FilePath) : Bool := p.toList.head? == some '/'

def join (p q : FilePath) : FilePath :=
  if isAbsolute q || p.isEmpty then q
  else if p.toList.getLast? == some '/' then p ++ q
  else p ++ "/" ++ q

/-- The number of characters before the names: one for a slash or a dot at the start. -/
def lead (p : List Char) : Nat :=
  match p with
  | '/' :: _ => 1
  | ['.'] => 1
  | '.' :: '/' :: _ => 1
  | _ => 0

/-- The last name of the part after the lead, with the characters it takes, in reverse. -/
def lastName (reversed : List Char) : List Char × List Char :=
  (reversed.takeWhile (· ≠ '/'), (reversed.dropWhile (· ≠ '/')).drop 1)

def isNoName (name : List Char) : Bool := name.isEmpty || name == ['.']

/-- The part after the lead, in reverse, without empty names and dots at its end. `fuel` bounds
their number. -/
def trimNames : Nat → List Char → List Char
  | 0, reversed => reversed
  | fuel + 1, reversed =>
    if reversed.isEmpty then []
    else
      let (name, rest) := lastName reversed
      if isNoName name then trimNames fuel rest else reversed

def namesPart (p : List Char) : List Char :=
  let body := (p.drop (lead p)).reverse
  trimNames (body.length + 1) body

/-- The last name of a path, unless it is a double dot or missing. -/
def fileName? (p : FilePath) : Option String :=
  let names := namesPart p.toList
  let name := (lastName names).1.reverse
  if names.isEmpty || name == ['.', '.'] then none else some (String.ofList name)

/-- The path without its last name; the empty path and the root have none. -/
def parent? (p : FilePath) : Option FilePath :=
  let s := p.toList
  let names := namesPart s
  if names.isEmpty then
    match s with
    | '.' :: _ => some ""
    | _ => none
  else
    let rest := (lastName names).2
    let kept := trimNames (rest.length + 1) rest
    some (String.ofList (s.take (lead s) ++ kept.reverse))

/-- The part of the file name after its last dot, unless that dot is its first character. -/
def extension? (p : FilePath) : Option String := do
  let reversed := (← fileName? p).toList.reverse
  let after := reversed.takeWhile (· ≠ '.')
  match reversed.dropWhile (· ≠ '.') with
  | _ :: _ :: _ => return String.ofList after.reverse
  | _ => none

/-- The names of a path, without empty ones and dots. -/
def names (p : FilePath) : List String :=
  (splitText '/' p).filter fun name => !(name.isEmpty || name == ".")

def withFileName (p : FilePath) (name : String) : FilePath :=
  match fileName? p with
  | some _ => join ((parent? p).getD "") name
  | none => join p name

end FilePath

end Runbook
