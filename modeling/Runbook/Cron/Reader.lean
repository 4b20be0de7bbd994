import Runbook.Text.Line
import Runbook.Cron.Scan

/-!
Cron expressions read from their texts. Expressions of five fields start with the minute and count
weekdays from 0 to 7, Sunday being both; they are brought into the form of six fields first.
-/

namespace Runbook.Cron

def number? (s : String) : Option Nat :=
  if !s.isEmpty && s.toList.all Char.isDigit then some (Numeral.digitsValue 0 s.toList) else none

/-! ### Weekdays counted from 0 to 7 -/

/-- A number of a field as a 32-bit word, with or without a plus sign. -/
def word? (s : String) : Option UInt32 :=
  let digits := match s.toList with
    | '+' :: rest => String.ofList rest
    | _ => s
  (number? digits).bind fun n => if n < Word.count 32 then some (UInt32.ofNat n) else none

/-- A weekday counted from Sunday, which is 0 or 7, as one counted from 1. The numbers are words. -/
def shiftWeekday (day : UInt32) : Computed UInt32 := if day = 7 then return 1 else Word.next day

def wordText (n : UInt32) : String := toString n.toNat

def shiftedText (day : UInt32) : Computed String := wordText <$> shiftWeekday day

def untilSunday (start : UInt32) (step : Nat) : Computed String :=
  ",".intercalate <$> (stepped start.toNat 7 step).mapM fun n => shiftedText (UInt32.ofNat n)

/-- The step of an item, if it is a positive 64-bit word. -/
def step? (s : String) : Option Nat :=
  let digits := match s.toList with
    | '+' :: rest => String.ofList rest
    | _ => s
  (number? digits).filter fun n => 0 < n && n < Word.count 64

def withStep (range : String) (step : Option String) : String :=
  match step with
  | some step => range ++ "/" ++ step
  | none => range

/-- A range of weekdays. One that ends on Sunday as 7 goes on to Saturday, and Sunday stands beside
it. -/
def weekdayRange (range : String) (start stop : UInt32) (step : Option String) :
    Computed String :=
  if start = 0 ∧ stop = 7 then return withStep "1-7" step
  else if stop = 7 then
    match step with
    | none => return wordText (← Word.next start) ++ "-7,1"
    | some text =>
      match step? text with
      | some n => untilSunday start n
      | none => return withStep range step
  else return withStep ((← shiftedText start) ++ "-" ++ (← shiftedText stop)) step

/-- An item of a field of weekdays; what is no number stays as it is. -/
def weekdayItem (item : String) : Computed String :=
  let (range, step) := match cutText '/' item with
    | some (range, step) => (range, some step)
    | none => (item, none)
  match cutText '-' range with
  | some (first, last) =>
    match word? first, word? last with
    | some start, some stop => weekdayRange range start stop step
    | _, _ => return withStep range step
  | none =>
    match word? range with
    | some day => return withStep (← shiftedText day) step
    | none => return withStep range step

def normalWeekdays (field : String) : Computed String :=
  ",".intercalate <$> (splitText ',' field).mapM weekdayItem

/-! ### Expressions -/

inductive Fault where
  | fieldCount (count : Nat)
  | invalid
  deriving DecidableEq, Repr

def Fault.message : Fault → String
  | .fieldCount n => s!"expected 5, 6 or 7 fields, found {n}"
  | .invalid => "Invalid expression: Invalid cron expression."

def fieldsOf (text : String) : List String :=
  ((text.toList.splitOnP Text.isBlank).filter (!·.isEmpty)).map String.ofList

/-- The fields of an expression in the form of six or seven. -/
def normalFields (text : String) : Computed (Except Fault (List String)) :=
  match fieldsOf text with
  | [minute, hour, day, month, weekday] => do
    return .ok ["0", minute, hour, day, month, ← normalWeekdays weekday]
  | fields =>
    if fields.length = 6 ∨ fields.length = 7 then return .ok fields
    else return .error (.fieldCount fields.length)

def ofFields (fields : List String) : Except Fault Cron :=
  match scan? (" ".intercalate fields) with
  | some c => .ok c
  | none => .error .invalid

def read (text : String) : Computed (Except Fault Cron) := do
  return (← normalFields text).bind ofFields

end Runbook.Cron
