import Runbook.Text.Blank
import Runbook.Decimal.Reading
import Runbook.Time.Timestamp

/-!
Instants read from their texts, a letter or a space between date and time. Blanks may stand before
the parts of either, numbers may lack zeros, and the distance from universal time may lack its
colon. The strict form allows none of that.
-/

namespace Runbook.Timestamp

def leastYear : Int := -262143

def greatestYear : Int := 262142

def number? (width : Nat) (s : List Char) : Option (Nat × List Char) :=
  let digits := (s.takeWhile Char.isDigit).take width
  if digits.isEmpty then none else some (Numeral.digitsValue 0 digits, s.drop digits.length)

/-- A year of four digits, or of any number of digits after a sign. -/
def year? (s : List Char) : Option (Int × List Char) :=
  match Text.trimStart s with
  | '-' :: rest => (number? rest.length rest).map fun (n, rest) => (-(n : Int), rest)
  | '+' :: rest => (number? rest.length rest).map fun (n, rest) => ((n : Int), rest)
  | s => (number? 4 s).map fun (n, rest) => ((n : Int), rest)

def twoDigits? (s : List Char) : Option (Nat × List Char) := number? 2 (Text.trimStart s)

def mark? (c : Char) (s : List Char) : Option (List Char) :=
  match Text.trimStart s with
  | d :: rest => if d == c then some rest else none
  | [] => none

/-- What sets the time off from the date: a letter or a space. -/
def separator? (s : List Char) : Option (List Char) :=
  match s with
  | c :: rest => if c == 'T' || c == 't' || c == ' ' then some rest else none
  | [] => none

/-- The fraction of a second; digits after the ninth do not count. -/
def fraction? (s : List Char) : Option (Nat × List Char) :=
  match s with
  | '.' :: rest =>
    let digits := rest.takeWhile Char.isDigit
    let nine := (digits ++ List.replicate 9 '0').take 9
    if digits.isEmpty then none
    else some (Numeral.digitsValue 0 nine, rest.drop digits.length)
  | s => some (0, s)

def pair? (s : List Char) : Option (Nat × List Char) :=
  if (s.take 2).all Char.isDigit ∧ (s.take 2).length = 2 then
    some (Numeral.digitsValue 0 (s.take 2), s.drop 2)
  else none

/-- The seconds that a distance from universal time stands for. -/
def signedOffset? (sign : Int) (s : List Char) : Option (Int × List Char) := do
  let (hours, s) ← pair? s
  let (minutes, s) ← pair? (s.dropWhile fun c => c == ':' || Text.isBlank c)
  if hours < 24 ∧ minutes < 60 then return (sign * (hours * 3600 + minutes * 60), s) else none

/-- The seconds that the time is ahead of universal time. -/
def offset? (s : List Char) : Option (Int × List Char) :=
  match Text.trimStart s with
  | 'Z' :: rest => some (0, rest)
  | 'z' :: rest => some (0, rest)
  | '+' :: rest => signedOffset? 1 rest
  | '-' :: rest => signedOffset? (-1) rest
  | '−' :: rest => signedOffset? (-1) rest
  | s => if (s.take 3).map Char.toUpper = ['U', 'T', 'C'] then some (0, s.drop 3) else none

def isYear (y : Int) : Bool := leastYear ≤ y && y ≤ greatestYear

/-- The instant of a date, a time and an offset, if they are valid and nothing but blanks is left; a
sixtieth second is a leap second. -/
def instant? (date : CivilDate) (hour minute second nanosecond : Nat) (offset : Int)
    (rest : List Char) : Option Timestamp :=
  if Text.isBlankText rest && date.isValid && isYear date.year && hour < 24 && minute < 60 &&
      second ≤ 60 then
    let leap := if second = 60 then Duration.second else 0
    let ofDay : Int := hour * 3600 + minute * 60 + min second 59
    let t := Timestamp.ofDay date.toDays (ofDay - offset) (nanosecond + leap)
    if isYear t.face.date.year then some t else none
  else none

def readChars? (s : List Char) : Option Timestamp := do
  let (year, s) ← year? s
  let (month, s) ← twoDigits? (← mark? '-' s)
  let (day, s) ← twoDigits? (← mark? '-' s)
  let (hour, s) ← twoDigits? (← separator? s)
  let (minute, s) ← twoDigits? (← mark? ':' s)
  let (second, s) ← twoDigits? (← mark? ':' s)
  let (nanosecond, s) ← fraction? s
  let (offset, s) ← offset? s
  instant? ⟨year, month, day⟩ hour minute second nanosecond offset s

def read? (s : String) : Option Timestamp := readChars? s.toList

/-! ### The strict form -/

def exactly? (width : Nat) (s : List Char) : Option (Nat × List Char) :=
  (number? width s).filter fun (_, rest) => rest.length + width = s.length

def bareMark? (c : Char) (s : List Char) : Option (List Char) :=
  match s with
  | d :: rest => if d == c then some rest else none
  | [] => none

def strictSignedOffset? (sign : Int) (s : List Char) : Option (Int × List Char) := do
  let (hours, s) ← exactly? 2 s
  let (minutes, s) ← exactly? 2 (← bareMark? ':' s)
  if hours < 24 ∧ minutes < 60 then return (sign * (hours * 3600 + minutes * 60), s) else none

def strictOffset? (s : List Char) : Option (Int × List Char) :=
  match s with
  | 'Z' :: rest => some (0, rest)
  | 'z' :: rest => some (0, rest)
  | '+' :: rest => strictSignedOffset? 1 rest
  | '-' :: rest => strictSignedOffset? (-1) rest
  | '−' :: rest => strictSignedOffset? (-1) rest
  | _ => none

/-- The instant that a text names in the strict form. -/
def readStrictChars? (s : List Char) : Option Timestamp := do
  let (year, s) ← exactly? 4 s
  let (month, s) ← exactly? 2 (← bareMark? '-' s)
  let (day, s) ← exactly? 2 (← bareMark? '-' s)
  let (hour, s) ← exactly? 2 (← separator? s)
  let (minute, s) ← exactly? 2 (← bareMark? ':' s)
  let (second, s) ← exactly? 2 (← bareMark? ':' s)
  let (nanosecond, s) ← fraction? s
  let (offset, s) ← strictOffset? s
  if s.isEmpty then instant? ⟨year, month, day⟩ hour minute second nanosecond offset s else none

def readStrict? (s : String) : Option Timestamp := readStrictChars? s.toList

end Runbook.Timestamp
