import Runbook.Text.Blank
import Runbook.Text.Category
import Runbook.Decimal.Reading
import Runbook.Time.ZoneTable

/-!
The zone that a schedule is kept in: the local one, a region by its name, or a whole number of hours
from universal time. The regions at a fixed distance have names whose sign points the other way.
-/

namespace Runbook

inductive Zone where
  | localTime
  | region (name : String)
  deriving DecidableEq, Repr

namespace Zone

def name : Zone → String
  | .localTime => "local time"
  | .region name => name

/-- The hours that a zone keeps; local time is universal time. -/
def rule : Zone → ZoneRule
  | .localTime => .fixed 0
  | .region name => (ZoneTable.rule? name).getD (.fixed 0)

/-- The least and the greatest distance from universal time in hours. -/
def leastHours : Int := -12

def greatestHours : Int := 14

/-- The minutes after the hours of an offset: none, or a colon and two zeros. -/
def isWholeHour (s : List Char) : Bool := s.isEmpty || s == [':', '0', '0']

/-- Hours of one or two digits with nothing but zero minutes after them. -/
def hours? (s : List Char) : Option Nat :=
  let digits := s.takeWhile Char.isDigit
  if (digits.length == 1 || digits.length == 2) && isWholeHour (s.drop digits.length) then
    some (Numeral.digitsValue 0 digits)
  else none

def signedHours? (s : List Char) : Option Int :=
  match s with
  | '-' :: rest => (hours? rest).map fun n => -(n : Int)
  | '+' :: rest => (hours? rest).map fun n => (n : Int)
  | s => (hours? s).map fun n => (n : Int)

/-- The hours that an offset from universal time stands for; a blank text stands for none. -/
def offsetHours? (text : String) : Option Int :=
  match Text.trim text.toList with
  | [] => some 0
  | s => (signedHours? s).filter fun h => leastHours ≤ h && h ≤ greatestHours

/-- The region at a whole number of hours from universal time. -/
def offsetName (hours : Int) : String :=
  if hours = 0 then "UTC"
  else if 0 < hours then s!"Etc/GMT-{hours}"
  else s!"Etc/GMT+{-hours}"

/-- A text that is to be read as an offset: a blank one, or one that starts with a digit after any
number of signs. -/
def looksNumeric (text : String) : Bool :=
  let s := Text.trim text.toList
  s.isEmpty || ((s.dropWhile fun c => c == '+' || c == '-').head?.any Char.isDigit)

def ofName? (name : String) : Option Zone := (ZoneTable.rule? name).map fun _ => .region name

/-- The zone that a setting stands for; without one it is local time. -/
def resolve? : Option String → Option Zone
  | none => some .localTime
  | some text =>
    if looksNumeric text then (offsetHours? text).bind fun hours => ofName? (offsetName hours)
    else ofName? (trimmed text)

end Zone

end Runbook
