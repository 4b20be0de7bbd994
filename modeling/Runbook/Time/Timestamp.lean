import Runbook.Duration
import Runbook.Time.Civil

/-!
Instants of universal time and the text that dates are exchanged in.
-/

namespace Runbook

/-- An instant: seconds since the start of 1970, and nanoseconds, which go on past one second while
a leap second lasts. -/
structure Timestamp where
  seconds : Int
  nanosecond : Nat
  deriving DecidableEq, Repr, Inhabited

/-- A number with zeros before it, as wide as asked for. -/
def padded (width n : Nat) : String :=
  let digits := toString n
  "".pushn '0' (width - digits.length) ++ digits

/-- An instant as the hands of a clock and a calendar show it. -/
structure ClockFace where
  date : CivilDate
  hour : Nat
  minute : Nat
  second : Nat
  deriving DecidableEq, Repr

namespace Timestamp

def secondsPerDay : Int := 86400

def days (t : Timestamp) : Int := t.seconds / secondsPerDay

def secondOfDay (t : Timestamp) : Nat := (t.seconds % secondsPerDay).toNat

/-- What a clock shows; in a leap second it shows 60 seconds. -/
def face (t : Timestamp) : ClockFace where
  date := CivilDate.ofDays t.days
  hour := t.secondOfDay / 3600
  minute := t.secondOfDay / 60 % 60
  second := t.secondOfDay % 60 + t.nanosecond / Duration.second

/-- A year of four digits; others have a sign. -/
def yearText (year : Int) : String :=
  if 0 ≤ year ∧ year ≤ 9999 then padded 4 year.toNat
  else (if year < 0 then "-" else "+") ++ padded 4 year.natAbs

/-- The fraction of a second in no, three, six or nine digits, as few as it needs. -/
def fractionText (nanosecond : Nat) : String :=
  let n := nanosecond % Duration.second
  if n == 0 then ""
  else if n % 1000000 == 0 then "." ++ padded 3 (n / 1000000)
  else if n % 1000 == 0 then "." ++ padded 6 (n / 1000)
  else "." ++ padded 9 n

def dateText (d : CivilDate) : String :=
  yearText d.year ++ "-" ++ padded 2 d.month ++ "-" ++ padded 2 d.day

def clockText (separator : String) (f : ClockFace) : String :=
  separator.intercalate [padded 2 f.hour, padded 2 f.minute, padded 2 f.second]

/-- The date and the time of an instant in universal time. -/
def baseText (t : Timestamp) : String :=
  dateText t.face.date ++ "T" ++ clockText ":" t.face ++ fractionText t.nanosecond

/-- The text of an instant in universal time, such as `2024-01-31T08:05:00.250Z`. -/
def text (t : Timestamp) : String := t.baseText ++ "Z"

/-- The text of an instant with the distance from universal time, as in
`2024-01-31T08:05:00.250+00:00`. -/
def offsetText (t : Timestamp) : String := t.baseText ++ "+00:00"

def plainText (t : Timestamp) : String := dateText t.face.date ++ " " ++ clockText ":" t.face

def ofDay (days : Int) (secondOfDay : Int) (nanosecond : Nat) : Timestamp :=
  ⟨days * secondsPerDay + secondOfDay, nanosecond⟩

/-- The nanoseconds from the first instant to the second one, where a leap second takes its time if
one of them lies in it and the other is at a later second of the day. -/
def nanosecondsUntil (start stop : Timestamp) : Int :=
  let isLeap := fun t : Timestamp => Duration.second ≤ t.nanosecond
  let leap : Int :=
    if start.secondOfDay < stop.secondOfDay ∧ isLeap start then 1
    else if stop.secondOfDay < start.secondOfDay ∧ isLeap stop then -1
    else 0
  (stop.seconds - start.seconds + leap) * Duration.second + (stop.nanosecond - start.nanosecond)

/-- The time from one instant to another; none if the other comes first. -/
def durationUntil (start stop : Timestamp) : Duration := ⟨(start.nanosecondsUntil stop).toNat⟩

def later (t : Timestamp) (d : Duration) : Timestamp :=
  let n := t.nanosecond + d.nanoseconds
  ⟨t.seconds + n / Duration.second, n % Duration.second⟩

def isBefore (a b : Timestamp) : Bool :=
  a.seconds < b.seconds || (a.seconds == b.seconds && a.nanosecond < b.nanosecond)

end Timestamp

end Runbook
