import Runbook.Text.CodeSet

/-!
Patterns of characters: sets of characters, places in a text, and their combinations.
-/

namespace Runbook.Pattern

inductive Anchor where
  | textStart | textEnd | lineStart (crlf : Bool) | lineEnd (crlf : Bool)
  | wordBoundary (ascii : Bool) | noWordBoundary (ascii : Bool)
  | wordStart (ascii : Bool) | wordEnd (ascii : Bool)
  | wordStartHalf (ascii : Bool) | wordEndHalf (ascii : Bool)
  deriving DecidableEq, Repr

end Runbook.Pattern

namespace Runbook

inductive Pattern where
  | empty
  | oneOf (s : Text.CodeSet)
  | anchor (a : Pattern.Anchor)
  | group (index : Nat) (p : Pattern)
  | sequence (first second : Pattern)
  | choice (first second : Pattern)
  | repeated (p : Pattern) (least : Nat) (most : Option Nat) (greedy : Bool)
  deriving Repr, Inhabited

namespace Pattern

def nullable : Pattern → Bool
  | .empty => true
  | .oneOf _ => false
  | .anchor _ => true
  | .group _ p => p.nullable
  | .sequence p q => p.nullable && q.nullable
  | .choice p q => p.nullable || q.nullable
  | .repeated p least _ _ => least == 0 || p.nullable

def isBlank : Pattern → Bool
  | .empty => true
  | .oneOf _ => false
  | .anchor _ => true
  | .group _ p => p.isBlank
  | .sequence p q => p.isBlank && q.isBlank
  | .choice p q => p.isBlank && q.isBlank
  | .repeated p _ most _ => most == some 0 || p.isBlank

/-- One pattern after the other; the empty pattern adds nothing. -/
def inSequence : List Pattern → Pattern
  | [] => .empty
  | .empty :: rest => inSequence rest
  | p :: rest =>
    match inSequence rest with
    | .empty => p
    | q => .sequence p q

/-- The set of the characters that any of the patterns takes, if all of them take one character. -/
def joinedSet? : List Pattern → Option Text.CodeSet
  | [] => some .empty
  | .oneOf s :: rest => (joinedSet? rest).map s.union
  | _ :: _ => none

/-- The first of the patterns that leads to a match; sets of characters make up one set. -/
def firstOf : List Pattern → Pattern
  | [] => .empty
  | [p] => p
  | p :: rest =>
    match joinedSet? (p :: rest) with
    | some s => .oneOf s
    | none => .choice p (firstOf rest)

/-- A pattern a number of times; a pattern of the empty text only is taken at most once. -/
def times (p : Pattern) (least : Nat) (most : Option Nat) (greedy : Bool) : Pattern :=
  let (least, most) :=
    if p.isBlank then (min least 1, some (min (most.getD 1) 1)) else (least, most)
  if most == some 0 then .empty
  else if least == 1 && most == some 1 then p
  else .repeated p least most greedy

end Pattern

end Runbook
