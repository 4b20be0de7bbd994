import Runbook.Word
import Runbook.Cron.Field

/-!
The text of a cron expression with all its fields. Blanks may stand around numbers, names and
marks; a field ends where no further item can be read, so that none is needed between two fields.
-/

namespace Runbook.Cron

abbrev Scan := StateT (List Char) Option

namespace Scan

def blanks : Scan Unit := modify fun s => s.dropWhile (· == ' ')

/-- Something with blanks around it, which are passed over. -/
def padded {α : Type} (scan : Scan α) : Scan α := do
  blanks
  let found ← scan
  blanks
  return found

def mark (c : Char) : Scan Unit := do
  match ← get with
  | d :: rest => if c == d then set rest else failure
  | [] => failure

def run (accepts : Char → Bool) : Scan (List Char) := do
  let s ← get
  let found := s.takeWhile accepts
  if found.isEmpty then failure
  else
    set (s.dropWhile accepts)
    return found

def number : Scan Nat := return Numeral.digitsValue 0 (← padded (run Char.isDigit))

def name : Scan String := return String.ofList (← padded (run Char.isAlpha))

def all (f : Field) : Scan Span := do
  padded (mark '*' <|> if f.takesAny then mark '?' else failure)
  return .all

def between : Scan Span := do
  let first ← number
  mark '-'
  return .between first (← number)

def betweenNames : Scan Span := do
  let first ← name
  mark '-'
  return .betweenNames first (← name)

def span (f : Field) : Scan Span := all f <|> between <|> .one <$> number <|> betweenNames

def steps (f : Field) : Scan Item := do
  let s ← span f
  mark '/'
  return .steps s (← number)

def item (f : Field) : Scan Item := steps f <|> .span <$> span f <|> .name <$> name

/-- The items after the first one, each behind a comma. A comma that no item follows is left. -/
def moreItems (f : Field) : Nat → Scan (List Item)
  | 0 => return []
  | fuel + 1 =>
    (do
      mark ','
      let found ← item f
      return found :: (← moreItems f fuel)) <|>
    return []

def field (f : Field) : Scan (List Nat) := do
  let first ← item f
  let rest ← moreItems f (← get).length
  f.values? (first :: rest)

def expression : Scan Cron := do
  let seconds ← field .second
  let minutes ← field .minute
  let hours ← field .hour
  let days ← field .day
  let months ← field .month
  let weekdays ← field .weekday
  let years ← if (← get).isEmpty then Field.year.values? [.span .all] else field .year
  if (← get).isEmpty then return ⟨seconds, minutes, hours, days, months, weekdays, years⟩
  else failure

end Scan

/-- The expression that a text of six or seven fields writes. -/
def scan? (text : String) : Option Cron := Scan.expression.run' text.toList

end Runbook.Cron
