import Runbook.Query.Basic
import Runbook.Pattern.Search

/-!
The values that a query finds in a document, in the order in which they stand there.
-/

namespace Runbook.Query

mutual

def within (d : Document) : List Document :=
  match d with
  | .list items => d :: withinItems items
  | .object fields => d :: withinFields fields
  | d => [d]

def withinItems : List Document → List Document
  | [] => []
  | d :: rest => within d ++ withinItems rest

def withinFields : List (String × Document) → List Document
  | [] => []
  | (_, d) :: rest => within d ++ withinFields rest

end

def children : Document → List Document
  | .list items => items
  | .object fields => fields.map Prod.snd
  | _ => []

def fromEnd (length : Nat) (i : Int) : Int := if i < 0 then length + i else i

def atIndex (items : List Document) (i : Int) : List Document :=
  let i := fromEnd items.length i
  if i < 0 then [] else (items[i.toNat]?).toList

/-- Every `step`-th place from `i` on, before `bound` going up or after it going down; `fuel` bounds
their number. -/
def places (i bound step : Int) : Nat → List Int
  | 0 => []
  | fuel + 1 =>
    if (0 < step ∧ i < bound) ∨ (step < 0 ∧ bound < i) then
      i :: places (i + step) bound step fuel
    else []

def sliced (items : List Document) (first last step : Option Int) : List Document :=
  let n := items.length
  let step := step.getD 1
  let bounded := fun (i least most : Int) => min (max (fromEnd n i) least) most
  let chosen :=
    if 0 < step then
      places (bounded (first.getD 0) 0 n) (bounded (last.getD n) 0 n) step n
    else if step < 0 then
      let start := match first with
        | some i => bounded i (-1) (n - 1)
        | none => (n : Int) - 1
      let stop := match last with
        | some i => bounded i (-1) (n - 1)
        | none => -1
      places start stop step n
    else []
  chosen.flatMap fun i => (items[i.toNat]?).toList

/-! ### Comparisons -/

mutual

/-- Equality of values inside lists and objects: an integer and a number with a fraction or an
exponent differ there, whatever their value. -/
def same : Document → Document → Bool
  | .null, .null => true
  | .bool a, .bool b => a == b
  | .integer a, .integer b => a == b
  | .real a, .real b => a == b
  | .text a, .text b => a == b
  | .list a, .list b => sameItems a b
  | .object a, .object b => sameFields a b
  | _, _ => false

def sameItems : List Document → List Document → Bool
  | [], [] => true
  | a :: as, b :: bs => same a b && sameItems as bs
  | _, _ => false

def sameFields : List (String × Document) → List (String × Document) → Bool
  | [], [] => true
  | (m, a) :: as, (n, b) :: bs => m == n && same a b && sameFields as bs
  | _, _ => false

end

/-- The number of a value, as near as a double comes to it. -/
def double? : Document → Option Float
  | .integer n => some (Float.ofInt n)
  | .real x => some x
  | _ => none

/-- Equality of two values that are compared; numbers are compared as doubles. -/
def equals (a b : Document) : Bool :=
  match double? a, double? b with
  | some x, some y => x == y
  | _, _ => same a b

def less (a b : Document) : Bool :=
  match double? a, double? b, a, b with
  | some x, some y, _, _ => x < y
  | _, _, .text s, .text t => s < t
  | _, _, _, _ => false

def ofOneKind : Document → Document → Bool
  | .null, .null => true
  | .bool _, .bool _ => true
  | .text _, .text _ => true
  | .list _, .list _ => true
  | .object _, .object _ => true
  | a, b => (double? a).isSome && (double? b).isSome

def greater (a b : Document) : Bool := ofOneKind a b && !less a b && !equals a b

/-- The outcome of a comparison; a missing value equals only another one and has no order. -/
def compareValues (c : Comparison) (a b : Option Document) : Bool :=
  match c, a, b with
  | .equal, some a, some b => equals a b
  | .equal, a, b => a.isNone && b.isNone
  | .notEqual, some a, some b => !equals a b
  | .notEqual, a, b => !(a.isNone && b.isNone)
  | .less, some a, some b => less a b
  | .lessEqual, some a, some b => less a b || equals a b
  | .greater, some a, some b => greater a b
  | .greaterEqual, some a, some b => greater a b || equals a b
  | _, _, _ => false

/-! ### Functions -/

/-- The number of characters, items or fields of a value. -/
def lengthOf? : Document → Option Document
  | .text s => some (.integer s.length)
  | .list items => some (.integer items.length)
  | .object fields => some (.integer fields.length)
  | _ => none

/-- Whether a text matches a pattern as a whole or in part; a pattern that cannot be read matches
nothing. -/
def matchesPattern (whole : Bool) (text pattern : Option Document) : Bool :=
  match text, pattern with
  | some (.text s), some (.text p) =>
    let pattern := if whole then "(?R)^(" ++ p ++ ")$" else "(?R)(" ++ p ++ ")"
    match Pattern.read? pattern with
    | some p => Pattern.occursIn p s
    | none => false
  | _, _ => false

/-! ### Evaluation -/

/-- The value that the selectors of a path with one value find. An index counts from the start
here, so that a negative one finds nothing. -/
def Segment.step? (d : Document) : Segment → Option Document
  | .mk _ [.name name] => d.field? name
  | .mk _ [.index i] =>
    match d with
    | .list items => if i < 0 then none else items[i.toNat]?
    | _ => none
  | .mk _ _ => none

def stepAll? (d : Document) : List Segment → Option Document
  | [] => some d
  | segment :: rest => (segment.step? d).bind (stepAll? · rest)

def Path.single? (root current : Document) : Path → Option Document
  | .mk fromRoot segments => stepAll? (if fromRoot then root else current) segments

mutual

def Path.find (root current : Document) : Path → List Document
  | .mk fromRoot segments => findAll root (if fromRoot then [root] else [current]) segments

def findAll (root : Document) (found : List Document) : List Segment → List Document
  | [] => found
  | segment :: rest => findAll root (found.flatMap (segment.find root)) rest

def Segment.find (root current : Document) : Segment → List Document
  | .mk deep selectors =>
    (if deep then within current else [current]).flatMap (select root · selectors)

def select (root current : Document) : List Selector → List Document
  | [] => []
  | selector :: rest => selector.find root current ++ select root current rest

def Selector.find (root current : Document) : Selector → List Document
  | .name name => (current.field? name).toList
  | .wildcard => children current
  | .index i =>
    match current with
    | .list items => atIndex items i
    | _ => []
  | .slice first last step =>
    match current with
    | .list items => sliced items first last step
    | _ => []
  | .filter test => (children current).filter (test.passes root)

def Test.passes (root current : Document) : Test → Bool
  | .or a b => a.passes root current || b.passes root current
  | .and a b => a.passes root current && b.passes root current
  | .not a => !a.passes root current
  | .found path => !(path.find root current).isEmpty
  | .holds call => call.holds root current
  | .compare c a b => compareValues c (a.value? root current) (b.value? root current)

def Operand.value? (root current : Document) : Operand → Option Document
  | .literal d => some d
  | .path p => p.single? root current
  | .call c => c.value? root current

def Operand.nodes (root current : Document) : Operand → List Document
  | .path p =>
    if p.isSingular then (p.single? root current).toList else p.find root current
  | _ => []

def Call.value? (root current : Document) : Call → Option Document
  | .mk .length [a] => (a.value? root current).bind lengthOf?
  | .mk .count [a] => some (.integer (a.nodes root current).length)
  | .mk .value [a] =>
    match a.nodes root current with
    | [d] => some d
    | _ => none
  | _ => none

def Call.holds (root current : Document) : Call → Bool
  | .mk .fullMatch [a, b] => matchesPattern true (a.value? root current) (b.value? root current)
  | .mk .search [a, b] => matchesPattern false (a.value? root current) (b.value? root current)
  | _ => false

end

def first? (path : Path) (d : Document) : Option Document := (path.find d d).head?

end Runbook.Query
