import Runbook.Word
import Runbook.Document
import Runbook.Decimal.Reading

/-!
Numbers of a JSON text. A numeral without a point and an exponent is an integer if it fits a
64-bit word. Any other one is the double of its first digits, as many as fit a 64-bit word, scaled
once by a power of ten; one that is too large is refused.
-/

namespace Runbook.Json

/-- The parts of a numeral: its sign, the digits before and after the point, and the exponent. -/
structure NumeralParts where
  negative : Bool
  whole : List Char
  fraction : Option (List Char)
  exponent : Option (Bool × List Char)
  deriving Repr

def fractionPart : List Char → Option (List Char) × List Char
  | '.' :: r => (some (r.takeWhile Char.isDigit), r.dropWhile Char.isDigit)
  | r => (none, r)

/-- The exponent at the end of a numeral: its sign and its digits, if there is one. -/
def exponentPart : List Char → Option (Option (Bool × List Char))
  | [] => some none
  | c :: r =>
    if c == 'e' || c == 'E' then
      let (negative, digits) := Numeral.sign r
      if digits.isEmpty || !digits.all Char.isDigit then none else some (some (negative, digits))
    else none

/-- A numeral has at least one digit before the point, no zero before others, and at least one
digit after the point and in the exponent. -/
def numeralParts? (s : List Char) : Option NumeralParts := do
  let (negative, s) := match s with
    | '-' :: r => (true, r)
    | r => (false, r)
  let whole := s.takeWhile Char.isDigit
  let (fraction, tail) := fractionPart (s.dropWhile Char.isDigit)
  let exponent ← exponentPart tail
  if whole.isEmpty || (whole.head? == some '0' && whole.length > 1) || fraction == some [] then none
  else return ⟨negative, whole, fraction, exponent⟩

def greatestWord : Nat := Word.greatest 64

/-- Appends digits to a significand as long as it fits a word; the digits that did not fit. -/
def appendDigits (significand : Nat) : List Char → Nat × List Char
  | [] => (significand, [])
  | c :: rest =>
    let next := 10 * significand + Numeral.digitValue c
    if next ≤ greatestWord then appendDigits next rest else (significand, c :: rest)

/-- `x * 10 ^ exponent` in double arithmetic; `none` when it is too large. The power is a double as
well, so that exponents below -308 take more than one division; `fuel` bounds their number. -/
def scaled (x : Float) (exponent : Int) : Nat → Option Float
  | 0 => some x
  | fuel + 1 =>
    if exponent.natAbs ≤ 308 then
      if 0 ≤ exponent then
        let y := x * Float.ofScientific 1 false exponent.natAbs
        if y.isInf then none else some y
      else some (x / Float.ofScientific 1 false exponent.natAbs)
    else if x == 0 then some x
    else if 0 ≤ exponent then none
    else scaled (x / 1e308) (exponent + 308) fuel

def greatestExponent : Nat := Word.greatest 31

def magnitude? (parts : NumeralParts) : Option Float := do
  let (first, dropped) := appendDigits 0 parts.whole
  let fraction := parts.fraction.getD []
  let (significand, unread) := appendDigits first fraction
  let point : Int := dropped.length - ((fraction.length - unread.length : Nat) : Int)
  match parts.exponent with
  | none => scaled significand.toFloat point 1100
  | some (negative, digits) =>
    let exponent := Numeral.digitsValue 0 digits
    if exponent > greatestExponent then
      if significand ≠ 0 ∧ !negative then none else some 0
    else scaled significand.toFloat (if negative then point - exponent else point + exponent) 1100

def number? (s : List Char) : Option Document := do
  let parts ← numeralParts? s
  let n := Numeral.digitsValue 0 parts.whole
  let whole := parts.fraction.isNone && parts.exponent.isNone
  if whole && !parts.negative && n ≤ greatestWord then return .integer n
  else if whole && parts.negative && 0 < n && n ≤ Word.count 63 then return .integer (-n)
  else
    let x ← magnitude? parts
    return .real (if parts.negative then -x else x)

end Runbook.Json
