import Runbook.Time.Zone

/-!
Cron expressions: for each unit of the calendar the values at which a schedule fires. It fires at
the times whose second, minute, hour, day, month, weekday and year are all among them.
-/

namespace Runbook

/-- The values of each unit, in ascending order; weekdays are counted from Sunday, which is 1. -/
structure Cron where
  seconds : List Nat
  minutes : List Nat
  hours : List Nat
  days : List Nat
  months : List Nat
  weekdays : List Nat
  years : List Nat
  deriving DecidableEq, Repr

namespace Cron

def secondOfDay (hour minute second : Nat) : Nat := hour * 3600 + minute * 60 + second

def matchesDay (c : Cron) (days : Int) : Bool :=
  let date := CivilDate.ofDays days
  c.days.contains date.day && c.months.contains date.month &&
    c.years.contains date.year.toNat && 0 ≤ date.year &&
    c.weekdays.contains (CivilDate.weekdayOfDays days + 1)

/-- The first instant of a day at or after a second of the day at which the clocks of a zone show a
time of the schedule. -/
def firstOfDay (c : Cron) (rule : ZoneRule) (days : Int) (least : Nat) : Option Int :=
  c.hours.findSome? fun hour =>
    if secondOfDay hour 59 59 < least then none
    else c.minutes.findSome? fun minute =>
      if secondOfDay hour minute 59 < least then none
      else c.seconds.findSome? fun second =>
        let n := secondOfDay hour minute second
        if n < least then none
        else (rule.instants (days * Timestamp.secondsPerDay + n)).head?

/-- The first firing from a day on, there at or after a second of it; `count` bounds the days. -/
def firstFrom (c : Cron) (rule : ZoneRule) (days : Int) (least : Nat) : Nat → Option Int
  | 0 => none
  | count + 1 =>
    match if c.matchesDay days then c.firstOfDay rule days least else none with
    | some second => some second
    | none => firstFrom c rule (days + 1) 0 count

def leastYear : Nat := 1970

def greatestYear : Nat := 2100

def horizon : Int := CivilDate.toDays ⟨greatestYear + 1, 1, 1⟩

/-- The first firing whose local time is at least a second after that of an instant. -/
def next? (c : Cron) (zone : Zone) (t : Timestamp) : Option Timestamp :=
  let start := zone.rule.toLocal (t.seconds + 1)
  let day := start / Timestamp.secondsPerDay
  let least := (start % Timestamp.secondsPerDay).toNat
  let second := if day < 0 then c.firstFrom zone.rule 0 0 horizon.toNat
    else c.firstFrom zone.rule day least (horizon - day).toNat
  second.map fun n => ⟨n, 0⟩

end Cron

end Runbook
