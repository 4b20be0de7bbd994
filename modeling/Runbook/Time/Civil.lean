/-!
Dates of the Gregorian calendar, counted in days from the first of January 1970. Years are reckoned
from March on, so that the leap day is the last day of its year.
-/

namespace Runbook

/-- A day of the calendar; the month and the day of the month count from one. -/
structure CivilDate where
  year : Int
  month : Nat
  day : Nat
  deriving DecidableEq, Repr, Inhabited

namespace CivilDate

def isLeapYear (year : Int) : Bool := year % 4 == 0 && (year % 100 != 0 || year % 400 == 0)

def daysInMonth (year : Int) (month : Nat) : Nat :=
  match month with
  | 2 => if isLeapYear year then 29 else 28
  | 4 => 30
  | 6 => 30
  | 9 => 30
  | 11 => 30
  | _ => 31

def isValid (d : CivilDate) : Bool :=
  1 ≤ d.month && d.month ≤ 12 && 1 ≤ d.day && d.day ≤ daysInMonth d.year d.month

def daysBeforeYear (y : Int) : Int := 365 * y + y / 4 - y / 100 + y / 400

/-- The days before a month in a year that starts in March, which is month 0. -/
def daysBeforeMonth (m : Int) : Int := (153 * m + 2) / 5

/-- The days from the first of March of the year 0 to the first of January 1970. -/
def epoch : Int := 719468

def toDays (d : CivilDate) : Int :=
  let y := if d.month ≤ 2 then d.year - 1 else d.year
  let m : Int := if d.month ≤ 2 then d.month + 9 else d.month - 3
  daysBeforeYear y + daysBeforeMonth m + d.day - 1 - epoch

/-- The date that lies a number of days after the first of January 1970. -/
def ofDays (days : Int) : CivilDate :=
  let n := days + epoch
  let era := n / 146097
  let inEra := n % 146097
  let yearOfEra := (inEra - inEra / 1460 + inEra / 36524 - inEra / 146096) / 365
  let inYear := inEra - (365 * yearOfEra + yearOfEra / 4 - yearOfEra / 100)
  let m := (5 * inYear + 2) / 153
  let day := inYear - daysBeforeMonth m + 1
  let month := if m < 10 then m + 3 else m - 9
  let year := 400 * era + yearOfEra + if month ≤ 2 then 1 else 0
  ⟨year, month.toNat, day.toNat⟩

/-- The day of the week of a number of days since 1970, Sunday being 0. -/
def weekdayOfDays (days : Int) : Nat := ((days + 4) % 7).toNat

end CivilDate

end Runbook
