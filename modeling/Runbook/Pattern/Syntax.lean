import Runbook.Pattern.Property

/-!
The written form of patterns: what the text of a pattern says before its flags are put into effect.
-/

namespace Runbook.Pattern

/-- A character that stands for itself. One that two hexadecimal digits write stands for an octet
where patterns are of octets. -/
structure Literal where
  char : Char
  isOctet : Bool := false
  deriving DecidableEq, Repr

/-- The sets that a letter after a backslash names. -/
inductive ClassName where
  | digit | space | word
  deriving DecidableEq, Repr

inductive Place where
  | lineStart | lineEnd | textStart | textEnd
  | wordBoundary | noWordBoundary | wordStart | wordEnd | wordStartHalf | wordEndHalf
  deriving DecidableEq, Repr

inductive SetOperator where
  | intersection | difference | symmetricDifference
  deriving DecidableEq, Repr

mutual

inductive SetExpr where
  | union (items : List SetItem)
  | operation (op : SetOperator) (left right : SetExpr)

inductive SetItem where
  | literal (l : Literal)
  | range (first last : Literal)
  | ascii (name : String) (isNegated : Bool)
  | named (name : ClassName) (isNegated : Bool)
  | property (name : PropertyName) (isNegated : Bool)
  | bracketed (set : SetExpr) (isNegated : Bool)

end

/-- Letters of flags, each with whether it is set or taken off. -/
abbrev FlagChange := List (Char × Bool)

inductive Expr where
  | empty
  | flags (change : FlagChange)
  | literal (l : Literal)
  | dot
  | place (p : Place)
  | named (name : ClassName) (isNegated : Bool)
  | property (name : PropertyName) (isNegated : Bool)
  | bracketed (set : SetExpr) (isNegated : Bool)
  | repeated (e : Expr) (least : Nat) (most : Option Nat) (isLazy : Bool)
  | group (index : Nat) (e : Expr)
  | flagged (change : FlagChange) (e : Expr)
  | sequence (es : List Expr)
  | alternatives (es : List Expr)

def Expr.inSequence : List Expr → Expr
  | [] => .empty
  | [e] => e
  | es => .sequence es

def Expr.alternativesOf : List Expr → Expr
  | [e] => e
  | es => .alternatives es

/-- What a repetition cannot apply to: nothing, and a setting of flags. -/
def Expr.isRepeatable : Expr → Bool
  | .empty => false
  | .flags _ => false
  | _ => true

mutual

def SetExpr.depth : SetExpr → Nat
  | .union items => (if items.length > 1 then 1 else 0) + itemsDepth items
  | .operation _ left right => 1 + max left.depth right.depth

def itemsDepth : List SetItem → Nat
  | [] => 0
  | item :: rest => max item.depth (itemsDepth rest)

def SetItem.depth : SetItem → Nat
  | .bracketed set _ => 1 + set.depth
  | _ => 0

end

mutual

/-- How deep groups, repetitions, sequences, alternatives and sets are nested. -/
def Expr.depth : Expr → Nat
  | .bracketed set _ => 1 + set.depth
  | .repeated e _ _ _ => 1 + e.depth
  | .group _ e => 1 + e.depth
  | .flagged _ e => 1 + e.depth
  | .sequence es => 1 + exprsDepth es
  | .alternatives es => 1 + exprsDepth es
  | _ => 0

def exprsDepth : List Expr → Nat
  | [] => 0
  | e :: rest => max e.depth (exprsDepth rest)

end

def greatestDepth : Nat := 250

end Runbook.Pattern
