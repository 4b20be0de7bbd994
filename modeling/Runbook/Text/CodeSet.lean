/-!
Sets of characters as ranges of code points, in increasing order with gaps between them.
-/

namespace Runbook.Text

/-- The number that hexadecimal digits write. -/
def ofHex (s : List Char) : Nat :=
  s.foldl (fun n c => 16 * n + if c.isDigit then c.toNat - 48 else c.toNat - 87) 0

def lastCodePoint : Nat := 0x10FFFF

/-- A set of code points: the first and the last one of every range, in increasing order, with gaps
between the ranges. -/
structure CodeSet where
  ranges : List (Nat × Nat)
  deriving DecidableEq, Repr, Inhabited

namespace CodeSet

def empty : CodeSet := ⟨[]⟩

def range (first last : Nat) : CodeSet := ⟨if first ≤ last then [(first, last)] else []⟩

def single (n : Nat) : CodeSet := range n n

def any : CodeSet := range 0 lastCodePoint

def ascii : CodeSet := range 0 0x7F

/-- Whether ranges in increasing order hold a code point. -/
def isIn (n : Nat) : List (Nat × Nat) → Bool
  | [] => false
  | (first, last) :: rest => if n < first then false else n ≤ last || isIn n rest

def has (s : CodeSet) (c : Char) : Bool := isIn c.toNat s.ranges

/-- Ranges in order of their first code points, made one where they overlap or touch; the range from
`first` to `last` comes before them. -/
def joinFrom (first last : Nat) : List (Nat × Nat) → List (Nat × Nat)
  | [] => [(first, last)]
  | (a, b) :: rest =>
    if a ≤ last + 1 then joinFrom first (max last b) rest
    else (first, last) :: joinFrom a b rest

def ofOrdered : List (Nat × Nat) → CodeSet
  | [] => empty
  | (a, b) :: rest => ⟨joinFrom a b rest⟩

def ofRanges (ranges : List (Nat × Nat)) : CodeSet :=
  ofOrdered (ranges.mergeSort fun x y => x.1 ≤ y.1)

def union (s t : CodeSet) : CodeSet :=
  ofOrdered (s.ranges.merge t.ranges fun x y => x.1 ≤ y.1)

def gapsFrom (n : Nat) : List (Nat × Nat) → List (Nat × Nat)
  | [] => if n ≤ lastCodePoint then [(n, lastCodePoint)] else []
  | (first, last) :: rest =>
    if n < first then (n, first - 1) :: gapsFrom (last + 1) rest else gapsFrom (last + 1) rest

def complement (s : CodeSet) : CodeSet := ⟨gapsFrom 0 s.ranges⟩

def inter (s t : CodeSet) : CodeSet := (s.complement.union t.complement).complement

def difference (s t : CodeSet) : CodeSet := s.inter t.complement

def symmetricDifference (s t : CodeSet) : CodeSet := (s.difference t).union (t.difference s)

def isAscii (s : CodeSet) : Bool := s.ranges.all fun (_, last) => last < 0x80

def only? (s : CodeSet) : Option Nat :=
  match s.ranges with
  | [(first, last)] => if first = last then some first else none
  | _ => none

/-- The ranges that a word writes in hexadecimal digits: one code point, the first and the last of a
row with a hyphen between them, or of some code points at a distance that comes after a slash. -/
def entryRanges (entry : String) : List (Nat × Nat) :=
  let s := entry.toList
  let first := ofHex (s.takeWhile Char.isAlphanum)
  match s.dropWhile Char.isAlphanum with
  | '-' :: rest =>
    let last := ofHex (rest.takeWhile Char.isAlphanum)
    match rest.dropWhile Char.isAlphanum with
    | '/' :: distance =>
      let distance := ofHex distance
      (List.range ((last - first) / distance + 1)).map fun i =>
        (first + i * distance, first + i * distance)
    | _ => [(first, last)]
  | _ => if s.isEmpty then [] else [(first, first)]

def ofText (s : String) : CodeSet := ofOrdered ((s.splitOn " ").flatMap entryRanges)

end CodeSet

end Runbook.Text
