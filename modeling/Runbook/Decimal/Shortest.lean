import Runbook.Word

/-!
Decimal texts of double-precision numbers. The shortest decimal of a number has the fewest digits
among the decimals that round to it, and of those it is the nearest one.
-/

namespace Runbook

structure Decimal where
  digits : Nat
  exponent : Int
  deriving DecidableEq, Repr

namespace Decimal

/-- A positive finite double, `mantissa * 2 ^ exponent`, and whether its lower neighbour is only
half as far away as its upper one. -/
structure Binary where
  mantissa : Nat
  exponent : Int
  narrow : Bool

/-- The magnitude of a finite double; a zero has mantissa zero. -/
def Binary.ofFloat (x : Float) : Binary :=
  let bits : Nat := x.toBits.toNat
  let fraction : Nat := bits % Word.count 52
  let biased : Nat := bits / Word.count 52 % Word.count 11
  if biased = 0 then ⟨fraction, -1074, false⟩
  else ⟨Word.count 52 + fraction, (biased : Int) - 1075, fraction = 0 && biased > 1⟩

/-- The reals that round to a double, over one denominator: all between `lower` and `upper`, the
ends included iff `closed`. -/
structure Interval where
  lower : Nat
  value : Nat
  upper : Nat
  denominator : Nat
  closed : Bool

def Binary.interval (b : Binary) : Interval :=
  let up := Nat.pow 2 b.exponent.toNat
  { lower := (4 * b.mantissa - if b.narrow then 1 else 2) * up
    value := 4 * b.mantissa * up
    upper := (4 * b.mantissa + 2) * up
    denominator := 4 * Nat.pow 2 (-b.exponent).toNat
    closed := b.mantissa % 2 = 0 }

def Interval.contains (i : Interval) (k : Nat) (e : Int) : Bool :=
  let point := k * Nat.pow 10 e.toNat * i.denominator
  let scale := Nat.pow 10 (-e).toNat
  if i.closed then i.lower * scale ≤ point && point ≤ i.upper * scale
  else i.lower * scale < point && point < i.upper * scale

/-- The exponent of the leading digit of the interval's value. -/
def Interval.magnitude (i : Interval) : Int :=
  ((toString (i.value * Nat.pow 10 400 / i.denominator)).length : Int) - 401

/-- The point of the grid of multiples of `10 ^ e` that lies in the interval nearest its value,
the even one of two equally near. -/
def Interval.gridPoint? (i : Interval) (e : Int) : Option Nat :=
  let scaled := i.value * Nat.pow 10 (-e).toNat
  let unit := i.denominator * Nat.pow 10 e.toNat
  let k := scaled / unit
  let low := i.contains k e
  let high := i.contains (k + 1) e
  let rest := 2 * (scaled % unit)
  if low && (!high || rest < unit || (rest = unit && k % 2 = 0)) then some k
  else if high then some (k + 1)
  else none

/-- The first hit among the grids with `tried`, `tried + 1`, ... digits. -/
def Interval.search (i : Interval) (magnitude : Int) : Nat → Nat → Decimal
  | 0, tried => ⟨i.value / i.denominator, magnitude - tried + 1⟩
  | more + 1, tried =>
    let e := magnitude - tried + 1
    match i.gridPoint? e with
    | some k => ⟨k, e⟩
    | none => i.search magnitude more (tried + 1)

/-- Removes the zeros at the end of the digits; `fuel` bounds their number. -/
def strip : Nat → Decimal → Decimal
  | 0, d => d
  | fuel + 1, d =>
    if d.digits ≠ 0 ∧ d.digits % 10 = 0 then strip fuel ⟨d.digits / 10, d.exponent + 1⟩ else d

/-- The shortest decimal that rounds to a finite double's magnitude. -/
def shortest (x : Float) : Decimal :=
  let b := Binary.ofFloat x
  if b.mantissa = 0 then ⟨0, 0⟩
  else strip 20 (b.interval.search b.interval.magnitude 20 1)

def withPoint (digits places : Nat) : String :=
  let text := toString digits
  let padded := "".pushn '0' (places + 1 - text.length) ++ text
  let whole := padded.length - places
  String.ofList (padded.toList.take whole) ++
    (if places = 0 then "" else "." ++ String.ofList (padded.toList.drop whole))

def positional (d : Decimal) : String :=
  withPoint (d.digits * Nat.pow 10 d.exponent.toNat) (-d.exponent).toNat

/-- One digit, a point if more follow, and the exponent with its sign. -/
def scientific (d : Decimal) : String :=
  let text := toString d.digits
  let exponent := d.exponent + (text.length : Int) - 1
  let fraction := String.ofList (text.toList.drop 1)
  String.ofList (text.toList.take 1) ++ (if fraction.isEmpty then "" else "." ++ fraction) ++ "e" ++
    (if exponent < 0 then "-" else "+") ++ toString exponent.natAbs

end Decimal

/-- The sign bit of a double, set also in the negative zero. -/
def Float.isSigned (x : Float) : Bool := x.toBits.toNat / Word.count 63 = 1

/-- The text of a finite number in a document: its shortest decimal, positional with at least one
decimal place when the leading digit's exponent is from -5 to 15, and scientific otherwise. -/
def numberText (x : Float) : String :=
  let d := Decimal.shortest x
  let magnitude := d.exponent + ((toString d.digits).length : Int) - 1
  let text :=
    if magnitude < -5 ∨ 16 ≤ magnitude then d.scientific
    else if 0 ≤ d.exponent then d.positional ++ ".0"
    else d.positional
  if Float.isSigned x then "-" ++ text else text

/-- The text of a finite number in a sentence: positional, without a point for a whole number. -/
def plainNumberText (x : Float) : String :=
  let text := (Decimal.shortest x).positional
  if Float.isSigned x then "-" ++ text else text

/-- `numerator / denominator` to the nearest integer, a half to the even one. -/
def roundedQuotient (numerator denominator : Nat) : Nat :=
  let quotient := numerator / denominator
  let twice := 2 * (numerator % denominator)
  if twice < denominator ∨ (twice = denominator ∧ quotient % 2 = 0) then quotient else quotient + 1

/-- A non-negative finite number with exactly `places` decimal places, rounded from its exact value.
-/
def fixedText (places : Nat) (x : Float) : String :=
  let b := Decimal.Binary.ofFloat x
  Decimal.withPoint
    (roundedQuotient (b.mantissa * Nat.pow 2 b.exponent.toNat * Nat.pow 10 places)
      (Nat.pow 2 (-b.exponent).toNat)) places

end Runbook
