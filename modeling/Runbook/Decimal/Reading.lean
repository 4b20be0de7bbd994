/-!
Decimal numerals read as double-precision numbers: the nearest double, and in JSON documents the
scaled double of the first digits.
-/

namespace Runbook

/-- A numeral: its sign, the digits with the point left out, and the exponent of the last digit. -/
structure Numeral where
  negative : Bool
  digits : Nat
  exponent : Int
  deriving DecidableEq, Repr

namespace Numeral

/-- The double nearest to the numeral, infinite beyond the largest. -/
def toFloat (n : Numeral) : Float :=
  let size : Int := ((toString n.digits).length : Int) + n.exponent
  let magnitude : Float :=
    if n.digits = 0 ∨ size < -400 then 0
    else if 400 < size then 1.0 / 0.0
    else Float.ofScientific n.digits (n.exponent < 0) n.exponent.natAbs
  if n.negative then -magnitude else magnitude

def digitValue (c : Char) : Nat := c.toNat - 48

def digitsValue (start : Nat) (s : List Char) : Nat :=
  s.foldl (fun n c => 10 * n + digitValue c) start

def sign : List Char → Bool × List Char
  | '-' :: s => (true, s)
  | '+' :: s => (false, s)
  | s => (false, s)

def exponentPart : List Char → Option Int
  | [] => some 0
  | c :: s =>
    if c == 'e' || c == 'E' then
      let (negative, digits) := sign s
      if digits.isEmpty || !digits.all Char.isDigit then none
      else some (if negative then -(digitsValue 0 digits : Int) else digitsValue 0 digits)
    else none

/-- A decimal numeral: a sign, digits with a point anywhere among them, and an exponent; the sign,
the point and the exponent may be missing, but not all the digits. -/
def ofText? (s : List Char) : Option Numeral :=
  let (negative, s) := sign s
  let whole := s.takeWhile Char.isDigit
  let rest := s.dropWhile Char.isDigit
  let (fraction, tail) := match rest with
    | '.' :: r => (r.takeWhile Char.isDigit, r.dropWhile Char.isDigit)
    | r => ([], r)
  if whole.isEmpty && fraction.isEmpty then none
  else do
    let exponent ← exponentPart tail
    return ⟨negative, digitsValue (digitsValue 0 whole) fraction, exponent - fraction.length⟩

/-- A natural number below a bound: ASCII digits after at most one plus sign. -/
def natural? (bound : Nat) (s : List Char) : Option Nat :=
  let digits := match s with
    | '+' :: rest => rest
    | s => s
  let n := digitsValue 0 digits
  if !digits.isEmpty && digits.all Char.isDigit && n < bound then some n else none

end Numeral

def floatOfText? (s : List Char) : Option Float := (Numeral.ofText? s).map Numeral.toFloat

end Runbook
