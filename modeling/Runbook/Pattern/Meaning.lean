import Runbook.Text.Folding
import Runbook.Pattern.Basic
import Runbook.Pattern.Size
import Runbook.Pattern.Reader

/-!
What the written form of a pattern means under the flags that hold in it. A pattern of octets may
not take part of a character, so there it may name characters of ASCII only, and no complement of
them.
-/

namespace Runbook.Pattern

open Text (CodeSet)

structure Flags where
  anyCase : Bool := false
  multiLine : Bool := false
  dotAll : Bool := false
  swapGreed : Bool := false
  ascii : Bool := false
  crlf : Bool := false
  deriving Repr

def Flags.set (f : Flags) (letter : Char) (on : Bool) : Flags :=
  match letter with
  | 'i' => { f with anyCase := on }
  | 'm' => { f with multiLine := on }
  | 's' => { f with dotAll := on }
  | 'U' => { f with swapGreed := on }
  | 'u' => { f with ascii := !on }
  | 'R' => { f with crlf := on }
  | _ => f

def Flags.change (f : Flags) (change : FlagChange) : Flags :=
  change.foldl (fun f (letter, on) => f.set letter on) f

/-! ### Sets -/

def wordSet : CodeSet :=
  (letters.union (Text.ofCategories ["Mn", "Mc", "Me", "Nd", "Pc"])).union (.range 0x200C 0x200D)

def digitSet : CodeSet := Text.ofCategories ["Nd"]

def blankSet : CodeSet := (Text.charsOf? Text.properties "whitespace").getD .empty

def asciiSet (name : String) : CodeSet :=
  .ofText <| match name with
    | "alnum" => "30-39 41-5a 61-7a"
    | "alpha" => "41-5a 61-7a"
    | "ascii" => "0-7f"
    | "blank" => "9 20"
    | "cntrl" => "0-1f 7f"
    | "digit" => "30-39"
    | "graph" => "21-7e"
    | "lower" => "61-7a"
    | "print" => "20-7e"
    | "punct" => "21-2f 3a-40 5b-60 7b-7e"
    | "space" => "9-d 20"
    | "upper" => "41-5a"
    | "word" => "30-39 41-5a 5f 61-7a"
    | "xdigit" => "30-39 41-46 61-66"
    | _ => ""

def ClassName.chars (name : ClassName) (ascii : Bool) : CodeSet :=
  match name with
  | .digit => if ascii then asciiSet "digit" else digitSet
  | .space => if ascii then asciiSet "space" else blankSet
  | .word => if ascii then asciiSet "word" else wordSet

def bothCases (s : CodeSet) : CodeSet :=
  let small := (s.inter (asciiSet "upper")).ranges.map fun (a, b) => (a + 32, b + 32)
  let capital := (s.inter (asciiSet "lower")).ranges.map fun (a, b) => (a - 32, b - 32)
  (s.union (.ofOrdered small)).union (.ofOrdered capital)

/-- The set as the flags mean it: in any case, before it is negated. -/
def Flags.fold (f : Flags) (s : CodeSet) : CodeSet :=
  if f.anyCase then if f.ascii then bothCases s else s.anyCase else s

def Flags.negate? (f : Flags) (isNegated : Bool) (s : CodeSet) : Option CodeSet :=
  if isNegated then if f.ascii then none else some s.complement else some s

/-- The character of a literal. In a pattern of octets an octet beyond ASCII is none. -/
def Literal.char? (l : Literal) (f : Flags) : Option Char :=
  if f.ascii && l.isOctet && l.char.toNat ≥ 0x80 then none else some l.char

def Literal.inSet? (l : Literal) (f : Flags) : Option Nat :=
  (l.char? f).bind fun c => if f.ascii && c.toNat ≥ 0x80 then none else some c.toNat

def namedSet? (f : Flags) (name : ClassName) (isNegated : Bool) : Option CodeSet :=
  f.negate? isNegated (name.chars f.ascii)

def propertySet? (f : Flags) (name : PropertyName) (isNegated : Bool) : Option CodeSet := do
  if f.ascii then none
  else f.negate? (isNegated != name.isNegated) (f.fold (← name.chars?))

def SetOperator.apply (op : SetOperator) (s t : CodeSet) : CodeSet :=
  match op with
  | .intersection => s.inter t
  | .difference => s.difference t
  | .symmetricDifference => s.symmetricDifference t

mutual

/-- The characters of a set in brackets, regardless of its negation and of case. -/
def SetExpr.chars? (f : Flags) : SetExpr → Option CodeSet
  | .union items => itemsChars? f items
  | .operation op left right => do
    return op.apply (f.fold (← left.chars? f)) (f.fold (← right.chars? f))

def itemsChars? (f : Flags) : List SetItem → Option CodeSet
  | [] => some .empty
  | item :: rest => do return (← item.chars? f).union (← itemsChars? f rest)

def SetItem.chars? (f : Flags) : SetItem → Option CodeSet
  | .literal l => (l.inSet? f).map .single
  | .range first last => do return .range (← first.inSet? f) (← last.inSet? f)
  | .ascii name isNegated => f.negate? isNegated (f.fold (asciiSet name))
  | .named name isNegated => namedSet? f name isNegated
  | .property name isNegated => propertySet? f name isNegated
  | .bracketed set isNegated => do f.negate? isNegated (f.fold (← set.chars? f))

end

/-! ### Patterns -/

def charSet (f : Flags) (c : Char) : CodeSet :=
  if f.ascii && c.toNat ≥ 0x80 then .single c.toNat else f.fold (.single c.toNat)

/-- The set of the dot: all characters, or all but those that end lines. -/
def dotSet? (f : Flags) : Option CodeSet :=
  if f.ascii then none
  else if f.dotAll then some .any
  else if f.crlf then some (CodeSet.ofText "a d").complement
  else some (CodeSet.ofText "a").complement

def Place.anchor (f : Flags) : Place → Anchor
  | .lineStart => if f.multiLine then .lineStart f.crlf else .textStart
  | .lineEnd => if f.multiLine then .lineEnd f.crlf else .textEnd
  | .textStart => .textStart
  | .textEnd => .textEnd
  | .wordBoundary => .wordBoundary f.ascii
  | .noWordBoundary => .noWordBoundary f.ascii
  | .wordStart => .wordStart f.ascii
  | .wordEnd => .wordEnd f.ascii
  | .wordStartHalf => .wordStartHalf f.ascii
  | .wordEndHalf => .wordEndHalf f.ascii

mutual

/-- The pattern, and the flags that hold after it. Those set in a group hold up to its end. -/
def Expr.meaning? (f : Flags) : Expr → Option (Pattern × Flags)
  | .empty => some (.empty, f)
  | .flags change => some (.empty, f.change change)
  | .literal l => do return (.oneOf (charSet f (← l.char? f)), f)
  | .dot => do return (.oneOf (← dotSet? f), f)
  | .place p => some (.anchor (p.anchor f), f)
  | .named name isNegated => do return (.oneOf (← namedSet? f name isNegated), f)
  | .property name isNegated => do return (.oneOf (← propertySet? f name isNegated), f)
  | .bracketed set isNegated => do
    return (.oneOf (← f.negate? isNegated (f.fold (← set.chars? f))), f)
  | .repeated e least most isLazy => do
    let (p, f) ← e.meaning? f
    return (p.times least most (isLazy == f.swapGreed), f)
  | .group index e => do
    let (p, _) ← e.meaning? f
    return (.group index p, f)
  | .flagged change e => do
    let (p, _) ← e.meaning? (f.change change)
    return (p, f)
  | .sequence es => do
    let (ps, f) ← meanings? f es
    return (.inSequence ps, f)
  | .alternatives es => do
    let (ps, f) ← meanings? f es
    return (.firstOf ps, f)

def meanings? (f : Flags) : List Expr → Option (List Pattern × Flags)
  | [] => some ([], f)
  | e :: rest => do
    let (p, f) ← e.meaning? f
    let (ps, f) ← meanings? f rest
    return (p :: ps, f)

end

/-- The pattern of a text, unless it takes too much room. -/
def read? (s : String) : Option Pattern := do
  let (p, _) ← (← parse? s).meaning? {}
  if p.fits then return p else none

end Runbook.Pattern
