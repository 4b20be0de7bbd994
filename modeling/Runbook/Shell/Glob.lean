import Runbook.Shell.Octets

/-!
Patterns of file names: an asterisk stands for any text, a question mark for one character, and
brackets for one of a set. Characters that are quoted stand for themselves.
-/

namespace Runbook.Shell

/-- A member of a set: a range of characters, or a class. -/
inductive GlobMember where
  | range (first last : Char)
  | ofClass (name : String)
  deriving DecidableEq, Repr

def GlobMember.holds (m : GlobMember) (c : Char) : Bool :=
  match m with
  | .range a b => a ≤ c && c ≤ b
  | .ofClass name => (OctetClass.find? name).any fun p => p (UInt8.ofNat c.toNat)

inductive GlobPart where
  | one (c : Char)
  | anyOne
  | anyText
  | oneOf (negated : Bool) (members : List GlobMember)
  deriving DecidableEq, Repr

abbrev Glob := List GlobPart

namespace Glob

/-- A character of a word, and whether it is quoted. -/
abbrev Marked := Char × Bool

/-- The class that is named after an opening bracket in a set, and what follows. -/
def class? (s : List Marked) : Option (String × List Marked) :=
  OctetClass.names.findSome? fun name =>
    let written := ((":" ++ name ++ ":]").toList.map (·, false))
    if written.isPrefixOf s then some (name, s.drop written.length) else none

/-- The members of a set up to its bracket, and the rest. A bracket at the start is one of them.
`fuel` bounds their number. -/
def members (first : Bool) : Nat → List Marked → Option (List GlobMember × List Marked)
  | 0, _ => none
  | _, [] => none
  | fuel + 1, c :: rest =>
    if c == (']', false) && !first then some ([], rest)
    else
      let (member, rest) := match if c == ('[', false) then class? rest else none, rest with
        | some (name, left), _ => (.ofClass name, left)
        | none, ('-', false) :: d :: left =>
          if d == (']', false) then (.range c.1 c.1, rest) else (.range c.1 d.1, left)
        | none, _ => (.range c.1 c.1, rest)
      (members false fuel rest).map fun (others, left) => (member :: others, left)

def set? (s : List Marked) : Option (GlobPart × List Marked) :=
  let isNegated := s.head? == some ('!', false)
  (members true (s.length + 1) (if isNegated then s.drop 1 else s)).map fun (found, rest) =>
    (.oneOf isNegated found, rest)

/-- The pattern that marked characters write; `fuel` bounds their number. -/
def ofMarked : Nat → List Marked → Glob
  | 0, _ => []
  | _, [] => []
  | fuel + 1, (c, quoted) :: rest =>
    if quoted then .one c :: ofMarked fuel rest
    else if c == '*' then .anyText :: ofMarked fuel rest
    else if c == '?' then .anyOne :: ofMarked fuel rest
    else if c == '[' then
      match set? rest with
      | some (part, rest) => part :: ofMarked fuel rest
      | none => .one c :: ofMarked fuel rest
    else .one c :: ofMarked fuel rest

def read (s : List Marked) : Glob := ofMarked (s.length + 1) s

/-- Whether a pattern stands for more than one text. -/
def isOpen (g : Glob) : Bool := g.any fun
  | .one _ => false
  | _ => true

def partMatches (p : GlobPart) (c : Char) : Bool :=
  match p with
  | .one d => c == d
  | .oneOf negated members => members.any (·.holds c) != negated
  | _ => true

/-- Whether a pattern stands for a text. -/
def accepts : Glob → List Char → Bool
  | [], s => s.isEmpty
  | .anyText :: g, [] => accepts g []
  | .anyText :: g, c :: s => accepts g (c :: s) || accepts (.anyText :: g) s
  | _ :: _, [] => false
  | p :: g, c :: s => partMatches p c && accepts g s
termination_by g s => g.length + s.length

/-- What is left of a text without a part at its start that the pattern stands for. -/
def cutStart (g : Glob) (longest : Bool) (s : List Char) : List Char :=
  let lengths := List.range (s.length + 1)
  match (if longest then lengths.reverse else lengths).find? fun n => g.accepts (s.take n) with
  | some n => s.drop n
  | none => s

/-- What is left of a text without a part at its end that the pattern stands for. -/
def cutEnd (g : Glob) (longest : Bool) (s : List Char) : List Char :=
  let lengths := List.range (s.length + 1)
  match (if longest then lengths else lengths.reverse).find? fun n => g.accepts (s.drop n) with
  | some n => s.take n
  | none => s

end Glob

end Runbook.Shell
