import Runbook.Decimal.Shortest
import Runbook.Shell.Arithmetic
import Runbook.Shell.Octets

/-!
Formats of printed values. A format is used again as long as arguments are left that it takes;
missing arguments stand for nothing or zero.
-/

namespace Runbook.Shell

/-- A number in a format: written there, or the next argument. -/
inductive Extent where
  | given (n : Nat)
  | argument
  deriving DecidableEq, Repr

structure Conversion where
  flags : List Char
  width : Option Extent
  precision : Option Extent
  kind : Char
  deriving DecidableEq, Repr

inductive FormatPart where
  | octets (octets : List UInt8)
  | value (conversion : Conversion)
  | fault (message : String)
  deriving DecidableEq, Repr

structure Layout where
  flags : List Char
  isLeft : Bool
  width : Nat
  precision : Option Nat
  kind : Char
  deriving DecidableEq, Repr

namespace Format

/-! ### Formats -/

def isFlag (c : Char) : Bool := "#-+ 0".toList.contains c

def kinds : List Char := "bcsdiouxXeEfFgG".toList

def extent (s : List Char) : Option Extent × List Char :=
  match s with
  | '*' :: rest => (some .argument, rest)
  | s =>
    let digits := s.takeWhile Char.isDigit
    (if digits.isEmpty then none else some (.given (Numeral.digitsValue 0 digits)),
      s.drop digits.length)

/-- What stands after a percent sign, and the rest. -/
def conversion (s : List Char) : FormatPart × List Char :=
  let flags := s.takeWhile isFlag
  let (width, rest) := extent (s.drop flags.length)
  let (precision, rest) := match rest with
    | '.' :: rest =>
      let (found, rest) := extent rest
      (found.or (some (.given 0)), rest)
    | rest => (none, rest)
  match rest with
  | kind :: rest =>
    if kinds.contains kind then (.value ⟨flags, width, precision, kind⟩, rest)
    else
      let written := String.ofList (s.take (s.length - rest.length))
      (.fault s!"%{written}: invalid directive", [])
  | [] => (.fault "missing format character", [])

def parts : Nat → List Char → List FormatPart
  | 0, _ => []
  | _, [] => []
  | fuel + 1, '\\' :: rest =>
    let (octet, rest) := Escape.escaped rest
    .octets [octet] :: parts fuel rest
  | fuel + 1, '%' :: '%' :: rest => .octets [37] :: parts fuel rest
  | fuel + 1, '%' :: rest =>
    let (part, rest) := conversion rest
    part :: parts fuel rest
  | fuel + 1, c :: rest => .octets [UInt8.ofNat c.toNat] :: parts fuel rest

/-! ### Numbers -/

def notNumeric : String := "expected numeric value"

def notWhole : String := "not completely converted"

def outOfRange : String := "Numerical result out of range"

/-- The character after a quotation mark, which stands for its number. -/
def character? (argument : String) : Option Nat :=
  match argument.toList with
  | '\'' :: rest => some ((rest.head?.map Char.toNat).getD 0)
  | '"' :: rest => some ((rest.head?.map Char.toNat).getD 0)
  | _ => none

def integer (isSigned : Bool) (argument : String) : Int × Option String :=
  match character? argument with
  | some n => (n, none)
  | none =>
    let (negative, unsigned) := Numeral.sign (argument.toList.dropWhile Arithmetic.isSpace)
    if argument.isEmpty then (0, none)
    else if !unsigned.head?.any Char.isDigit then (0, some notNumeric)
    else
      let (magnitude, rest) := Arithmetic.numeral unsigned
      let n : Int := if negative then -magnitude else magnitude
      let isWord := if isSigned then Arithmetic.fits n else decide (magnitude < Word.count 64)
      let value := if isSigned then Arithmetic.nearest n
        else if isWord then n % Word.count 64 else Word.count 64 - 1
      (value, if !rest.isEmpty then some notWhole else if isWord then none else some outOfRange)

def exponentPart (s : List Char) : List Char :=
  match s with
  | c :: rest =>
    if c == 'e' || c == 'E' then
      let (_, digits) := Numeral.sign rest
      let taken := digits.takeWhile Char.isDigit
      if taken.isEmpty then [] else c :: rest.take (rest.length - digits.length + taken.length)
    else []
  | [] => []

/-- The numeral at the start of a text, without a sign. -/
def numeralPart (s : List Char) : List Char :=
  let lower := s.map Char.toLower
  match ["infinity", "inf", "nan"].find? fun w => w.toList.isPrefixOf lower with
  | some word => s.take word.length
  | none =>
    let whole := s.takeWhile Char.isDigit
    let rest := s.drop whole.length
    let fraction := match rest with
      | '.' :: digits => '.' :: digits.takeWhile Char.isDigit
      | _ => []
    if whole.isEmpty && fraction.length ≤ 1 then []
    else whole ++ fraction ++ exponentPart (rest.drop fraction.length)

/-- The double that a numeral without a sign stands for. -/
def magnitude (numeral : List Char) : Float :=
  match numeral.map Char.toLower with
  | 'i' :: _ => 1.0 / 0.0
  | 'n' :: _ => 0.0 / 0.0
  | digits => (floatOfText? digits).getD 0

/-- The sign and the magnitude that an argument stands for, and a complaint if there is one. -/
def real (argument : String) : Bool × Float × Option String :=
  match character? argument with
  | some n => (false, Float.ofNat n, none)
  | none =>
    let (negative, unsigned) := Numeral.sign (argument.toList.dropWhile Arithmetic.isSpace)
    let numeral := numeralPart unsigned
    if argument.isEmpty then (false, 0, none)
    else if numeral.isEmpty then (false, 0, some notNumeric)
    else (negative, magnitude numeral,
      if numeral.length < unsigned.length then some notWhole else none)

/-! ### Texts of numbers -/

/-- Text filled up to a width with blanks. -/
def padded (l : Layout) (octets : List UInt8) : List UInt8 :=
  let missing := l.width - octets.length
  if l.isLeft then octets ++ List.replicate missing 32 else List.replicate missing 32 ++ octets

def filled (l : Layout) (sign digits : String) (takesZeros : Bool) : List UInt8 :=
  let zeros := if takesZeros && l.flags.contains '0' && !l.isLeft then
    l.width - sign.length - digits.length else 0
  padded l (Octets.ofText (sign ++ "".pushn '0' zeros ++ digits))

def signMark (l : Layout) (negative : Bool) : String :=
  if negative then "-"
  else if l.flags.contains '+' then "+"
  else if l.flags.contains ' ' then " "
  else ""

def upper (s : String) : String := String.ofList (s.toList.map Char.toUpper)

/-- A number in its base, with as many digits as are asked for. -/
def integerText (l : Layout) (n : Int) : List UInt8 :=
  let isSigned := l.kind == 'd' || l.kind == 'i'
  let base := if l.kind == 'o' then 8 else if l.kind == 'x' || l.kind == 'X' then 16 else 10
  let digits := String.ofList (Nat.toDigits base n.natAbs)
  let digits := if l.precision == some 0 && n = 0 then "" else digits
  let digits := "".pushn '0' (l.precision.getD 0 - digits.length) ++ digits
  let isMarked := l.flags.contains '#'
  let digits := if isMarked && l.kind == 'o' && digits.toList.head? != some '0' then "0" ++ digits
    else digits
  let before := if isSigned then signMark l (n < 0)
    else if isMarked && base = 16 && n ≠ 0 then "0x" else ""
  if l.kind == 'X' then filled l (upper before) (upper digits) l.precision.isNone
  else filled l before digits l.precision.isNone

/-- The digits of a positive number with one before the point, and the exponent of that one. -/
def leading (places : Nat) (x : Float) : Nat × Int :=
  let b := Decimal.Binary.ofFloat x
  if b.mantissa = 0 then (0, 0)
  else
    let exponent := b.interval.magnitude
    let shift : Int := places - exponent
    let digits := roundedQuotient
      (b.mantissa * Nat.pow 2 b.exponent.toNat * Nat.pow 10 shift.toNat)
      (Nat.pow 2 (-b.exponent).toNat * Nat.pow 10 (-shift).toNat)
    if digits < Nat.pow 10 (places + 1) then (digits, exponent) else (digits / 10, exponent + 1)

def scientificText (places : Nat) (x : Float) : String :=
  let (digits, exponent) := leading places x
  let size := toString exponent.natAbs
  Decimal.withPoint digits places ++ "e" ++ (if exponent < 0 then "-" else "+") ++
    "".pushn '0' (2 - size.length) ++ size

/-- Without zeros at the end of the places after a point, and without a point there. -/
def trimmedPlaces (s : String) : String :=
  if s.toList.contains '.' then
    let kept := s.toList.reverse.dropWhile (· == '0')
    String.ofList (if kept.head? == some '.' then kept.drop 1 else kept).reverse
  else s

def generalText (isMarked : Bool) (precision : Nat) (x : Float) : String :=
  let places := precision - 1
  let exponent := (leading places x).2
  let trim := fun s => if isMarked then s else trimmedPlaces s
  if exponent < -4 || (places : Int) < exponent then
    let text := (scientificText places x).splitOn "e"
    trim (text.headD "") ++ "e" ++ text.getD 1 ""
  else trim (fixedText ((places : Int) - exponent).toNat x)

def realText (l : Layout) (negative : Bool) (x : Float) : List UInt8 :=
  let places := l.precision.getD 6
  let digits := if x.isNaN then "nan" else if x.isInf then "inf" else match l.kind.toLower with
    | 'f' => fixedText places x
    | 'e' => scientificText places x
    | _ => generalText (l.flags.contains '#') (max places 1) x
  let digits := if l.kind.isUpper then upper digits else digits
  filled l (signMark l negative) digits (!x.isNaN && !x.isInf)

/-! ### Printing -/

/-- What is printed so far, what there is to complain of, and the arguments that are left. -/
structure Printing where
  octets : List UInt8
  complaints : List String
  arguments : List String
  deriving DecidableEq, Repr

/-- Why printing ends before the arguments do. -/
inductive Stop where
  | cut | fault (message : String)
  deriving DecidableEq, Repr

namespace Printing

def print (p : Printing) (octets : List UInt8) : Printing := { p with octets := p.octets ++ octets }

def next (p : Printing) : String × Printing :=
  (p.arguments.headD "", { p with arguments := p.arguments.drop 1 })

def complain (p : Printing) (argument : String) : Option String → Printing
  | some message => { p with complaints := p.complaints ++ [s!"{argument}: {message}"] }
  | none => p

def extent (p : Printing) : Option Extent → Option Int × Printing
  | none => (none, p)
  | some (.given n) => (some n, p)
  | some .argument =>
    let (argument, p) := p.next
    let (n, complaint) := integer true argument
    (some n, p.complain argument complaint)

def layout (p : Printing) (c : Conversion) : Layout × Printing :=
  let (width, p) := p.extent c.width
  let (precision, p) := p.extent c.precision
  let width := width.getD 0
  (⟨c.flags, c.flags.contains '-' || width < 0, width.natAbs,
    precision.bind fun n => if n < 0 then none else some n.toNat, c.kind⟩, p)

/-- Prints an argument; the truth value tells whether to go on. -/
def value (p : Printing) (l : Layout) : Printing × Bool :=
  let (argument, p) := p.next
  let cut := fun octets : List UInt8 => match l.precision with
    | some n => octets.take n
    | none => octets
  if l.kind == 's' then (p.print (padded l (cut (Octets.ofText argument))), true)
  else if l.kind == 'c' then
    (p.print (padded l [((Octets.ofText argument).head?).getD 0]), true)
  else if l.kind == 'b' then
    let (octets, whole) := Escape.ofText argument
    (p.print (padded l (cut octets)), whole)
  else if "eEfFgG".toList.contains l.kind then
    let (negative, x, complaint) := real argument
    ((p.complain argument complaint).print (realText l negative x), true)
  else
    let (n, complaint) := integer (l.kind == 'd' || l.kind == 'i') argument
    ((p.complain argument complaint).print (integerText l n), true)

def pass (p : Printing) : List FormatPart → Printing × Option Stop
  | [] => (p, none)
  | .octets octets :: rest => (p.print octets).pass rest
  | .fault message :: _ => (p, some (.fault message))
  | .value c :: rest =>
    let (l, p) := p.layout c
    let (p, goesOn) := p.value l
    if goesOn then p.pass rest else (p, some .cut)

/-- Passes over a format as long as arguments are left that it takes. -/
def passes (format : List FormatPart) : Nat → Printing → Printing × Option Stop
  | 0, p => (p, none)
  | fuel + 1, p =>
    let (q, stop) := p.pass format
    if stop.isNone && !q.arguments.isEmpty && q.arguments.length < p.arguments.length then
      passes format fuel q
    else (q, stop)

end Printing

def apply (format : String) (arguments : List String) : Printing × Option Stop :=
  Printing.passes (parts (format.length + 1) format.toList) (arguments.length + 1)
    ⟨[], [], arguments⟩

end Format

end Runbook.Shell
