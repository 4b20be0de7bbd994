import Runbook.Cron.Basic

/-!
The fields of a cron expression: the values each may name, by number and by name.
-/

namespace Runbook.Cron

structure Field where
  least : Nat
  greatest : Nat
  /-- The names of the values from the least one on, each with its other spellings. -/
  names : List (List String)
  /-- Whether a question mark stands for all values. -/
  takesAny : Bool
  deriving DecidableEq, Repr

namespace Field

def second : Field := ⟨0, 59, [], false⟩

def minute : Field := ⟨0, 59, [], false⟩

def hour : Field := ⟨0, 23, [], false⟩

def day : Field := ⟨1, 31, [], true⟩

def month : Field where
  least := 1
  greatest := 12
  names := [["jan", "january"], ["feb", "february"], ["mar", "march"], ["apr", "april"], ["may"],
    ["jun", "june"], ["jul", "july"], ["aug", "august"], ["sep", "september"],
    ["oct", "october"], ["nov", "november"], ["dec", "december"]]
  takesAny := false

def weekday : Field where
  least := 1
  greatest := 7
  names := [["sun", "sunday"], ["mon", "monday"], ["tue", "tues", "tuesday"],
    ["wed", "wednesday"], ["thu", "thurs", "thursday"], ["fri", "friday"], ["sat", "saturday"]]
  takesAny := true

def year : Field := ⟨leastYear, greatestYear, [], false⟩

def named? (f : Field) (name : String) : Option Nat :=
  (f.names.findIdx? (·.contains name.toLower)).map (f.least + ·)

def holds (f : Field) (n : Nat) : Bool := f.least ≤ n && n ≤ f.greatest

end Field

def stepped (a b step : Nat) : List Nat :=
  (List.range (b + 1)).filter fun n => a ≤ n && (n - a) % step == 0

/-- A value or a stretch of values of a field, as it is written. -/
inductive Span where
  | all
  | one (n : Nat)
  | between (first last : Nat)
  | betweenNames (first last : String)
  deriving DecidableEq, Repr

inductive Item where
  | span (s : Span)
  | steps (s : Span) (step : Nat)
  | name (name : String)
  deriving DecidableEq, Repr

namespace Field

/-- The two ends of a span in a field; the first is not after the second. A single value goes up to
`last`. -/
def bounds? (f : Field) (last : Nat) : Span → Option (Nat × Nat)
  | .all => some (f.least, f.greatest)
  | .one n => if f.holds n then some (n, last) else none
  | .between a b => if f.holds a && f.holds b && a ≤ b then some (a, b) else none
  | .betweenNames a b => do
    let a ← f.named? a
    let b ← f.named? b
    if a ≤ b then some (a, b) else none

/-- The values of an item. One value with a step goes on to the greatest; no step is greater. -/
def valuesOf? (f : Field) : Item → Option (List Nat)
  | .span (.one n) => (f.bounds? n (.one n)).map fun (a, b) => stepped a b 1
  | .span s => (f.bounds? f.greatest s).map fun (a, b) => stepped a b 1
  | .steps s step =>
    if 1 ≤ step ∧ step ≤ f.greatest then
      (f.bounds? f.greatest s).map fun (a, b) => stepped a b step
    else none
  | .name s => (f.named? s).map fun n => [n]

def values? (f : Field) (items : List Item) : Option (List Nat) := do
  let found ← items.mapM f.valuesOf?
  return (List.range (f.greatest + 1)).filter fun n => found.any (·.contains n)

end Field

end Runbook.Cron
