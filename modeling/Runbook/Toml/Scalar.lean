import Runbook.Word
import Runbook.Json.Token
import Runbook.Decimal.Reading
import Runbook.Time.Civil

/-!
The single values of a TOML text: quoted texts, numbers, truth values and times. A reading takes
what it reads off the front of the text, or refuses it.
-/

namespace Runbook.Toml

abbrev Reading (α : Type) := StateT (List Char) Option α

namespace Reading

def refuse {α : Type} : Reading α := fun _ => none

def ahead : Reading (List Char) := get

def skip (n : Nat) : Reading Unit := modify (List.drop n)

def takeWhile (p : Char → Bool) : Reading (List Char) := do
  let taken := (← ahead).takeWhile p
  skip taken.length
  return taken

/-- Takes a text if it comes next. -/
def accept (s : String) : Reading Bool := do
  if s.toList.isPrefixOf (← ahead) then
    skip s.length
    return true
  else return false

/-- Takes a text that has to come next. -/
def expect (s : String) : Reading Unit := do
  if ← accept s then return () else refuse

def isBlank (c : Char) : Bool := c == ' ' || c == '\t'

def skipBlanks : Reading Unit := do
  let _ ← takeWhile isBlank

/-- A control character that no text and no comment may hold. -/
def isControl (c : Char) : Bool := (c.toNat < 0x20 && c != '\t') || c == '\x7f'

def acceptLineEnd : Reading Bool := do
  if ← accept "\n" then return true else accept "\r\n"

def skipComment : Reading Unit := do
  if ← accept "#" then
    let _ ← takeWhile fun c => !isControl c

/-- Takes blanks, comments and ends of lines; `fuel` bounds the number of lines. -/
def skipLines : Nat → Reading Unit
  | 0 => return ()
  | fuel + 1 => do
    skipBlanks
    skipComment
    if ← acceptLineEnd then skipLines fuel

/-! ### Texts -/

def codePoint? (digits : List Char) : Option Char :=
  (Json.hexValue? digits).bind fun n =>
    if h : n.isValidChar then some (Char.ofNatAux n h) else none

/-- The character that an escape stands for, and how many characters it takes up. -/
def escape? : List Char → Option (Char × Nat)
  | 'b' :: _ => some ('\x08', 1)
  | 't' :: _ => some ('\t', 1)
  | 'n' :: _ => some ('\n', 1)
  | 'f' :: _ => some ('\x0c', 1)
  | 'r' :: _ => some ('\r', 1)
  | '"' :: _ => some ('"', 1)
  | '\\' :: _ => some ('\\', 1)
  | 'u' :: rest => if rest.length < 4 then none else (codePoint? (rest.take 4)).map (·, 5)
  | 'U' :: rest => if rest.length < 8 then none else (codePoint? (rest.take 8)).map (·, 9)
  | _ => none

/-- The rest of a text in double quotes; `fuel` bounds its length. -/
def basicText : Nat → Reading (List Char)
  | 0 => refuse
  | fuel + 1 => do
    match ← ahead with
    | [] => refuse
    | '"' :: _ => do
      skip 1
      return []
    | '\\' :: rest =>
      match escape? rest with
      | none => refuse
      | some (c, length) => do
        skip (length + 1)
        return c :: (← basicText fuel)
    | c :: _ =>
      if isControl c then refuse
      else do
        skip 1
        return c :: (← basicText fuel)

def literalText : Reading (List Char) := do
  let text ← takeWhile fun c => c != '\'' && !isControl c
  expect "'"
  return text

/-- Takes the three quotes that end a text of several lines; up to two more before them are part of
it. -/
def closing? (quote : Char) : Reading (Option (List Char)) := do
  let quotes := (← ahead).takeWhile (· == quote)
  let count := min quotes.length 5
  if 3 ≤ count then
    skip count
    return some (List.replicate (count - 3) quote)
  else return none

/-- The rest of a text of several lines. In double quotes it has escapes, and a backslash at the end
of a line takes the blanks and lines after it away. -/
def longText (quote : Char) : Nat → Reading (List Char)
  | 0 => refuse
  | fuel + 1 => do
    match ← closing? quote with
    | some last => return last
    | none =>
      match ← ahead with
      | [] => refuse
      | '\r' :: '\n' :: _ => do
        skip 2
        return '\n' :: (← longText quote fuel)
      | '\\' :: rest =>
        if quote == '\'' then do
          skip 1
          return '\\' :: (← longText quote fuel)
        else
          let blanks := rest.takeWhile fun c => isBlank c || c == '\n' || c == '\r'
          match escape? rest, blanks.contains '\n' with
          | some (c, length), _ => do
            skip (length + 1)
            return c :: (← longText quote fuel)
          | none, true => do
            skip (blanks.length + 1)
            longText quote fuel
          | none, false => refuse
      | c :: _ =>
        if isControl c && c != '\n' then refuse
        else do
          skip 1
          return c :: (← longText quote fuel)

def text? (fuel : Nat) : Reading (Option String) := do
  let long (quote : Char) : Reading (Option String) := do
    let _ ← acceptLineEnd
    return some (String.ofList (← longText quote fuel))
  if ← accept "\"\"\"" then long '"'
  else if ← accept "'''" then long '\''
  else if ← accept "\"" then return some (String.ofList (← basicText fuel))
  else if ← accept "'" then return some (String.ofList (← literalText))
  else return none

end Reading

/-! ### Numbers -/

/-- The digits of a numeral, where single underscores may stand between digits. -/
def digits? (isDigit : Char → Bool) : List Char → Option (List Char)
  | [] => none
  | [c] => if isDigit c then some [c] else none
  | c :: '_' :: rest => if isDigit c then (digits? isDigit rest).map (c :: ·) else none
  | c :: rest => if isDigit c then (digits? isDigit rest).map (c :: ·) else none

def valueOf (base : Nat) (digits : List Char) : Int :=
  digits.foldl (fun (n : Int) c => n * base + ((Json.hexDigit? c).getD 0 : Nat)) 0

def isProper (digits : List Char) : Bool := digits.length ≤ 1 || digits.head? != some '0'

def bounded? (n : Int) : Option Int := if Word.isSigned 64 n then some n else none

def integer? (s : List Char) : Option Int :=
  let inBase := fun base (isDigit : Char → Bool) digits =>
    ((digits? isDigit digits).map (valueOf base)).bind bounded?
  match s with
  | '0' :: 'x' :: digits => inBase 16 (fun c => (Json.hexDigit? c).isSome) digits
  | '0' :: 'o' :: digits => inBase 8 (fun c => '0' ≤ c && c ≤ '7') digits
  | '0' :: 'b' :: digits => inBase 2 (fun c => c == '0' || c == '1') digits
  | _ =>
    let (negative, digits) := Numeral.sign s
    ((digits? Char.isDigit digits).filter isProper).bind fun digits =>
      bounded? (if negative then -(valueOf 10 digits) else valueOf 10 digits)

def isTooGreat (x : Float) : Bool := x.isInf && 0 < x

/-- A number with a fraction or an exponent, infinity, or what is no number. A numeral may be less
than all doubles, but not greater. -/
def float? (s : List Char) : Option Float :=
  let (negative, unsigned) := Numeral.sign s
  let isMark := fun c => c == '.' || c == 'e' || c == 'E'
  let whole := unsigned.takeWhile fun c => !isMark c
  let rest := unsigned.drop whole.length
  let fraction := (rest.takeWhile fun c => c != 'e' && c != 'E')
  let exponent := rest.drop fraction.length
  let fractionDigits? := match fraction with
    | [] => some []
    | _ :: digits => digits? Char.isDigit digits
  let exponentDigits? := match exponent with
    | [] => some []
    | _ :: digits => digits? Char.isDigit (Numeral.sign digits).2
  let word := String.ofList unsigned
  if word == "inf" then some (if negative then -1.0 / 0.0 else 1.0 / 0.0)
  else if word == "nan" then some (0.0 / 0.0)
  else if rest.isEmpty then none
  else match (digits? Char.isDigit whole).filter isProper, fractionDigits?, exponentDigits? with
    | some _, some _, some _ => (floatOfText? (s.filter (· != '_'))).filter (!isTooGreat ·)
    | _, _, _ => none

/-! ### Times -/

/-- A number of a fixed count of digits within bounds, and the rest. -/
def field? (count least greatest : Nat) (s : List Char) : Option (Nat × List Char) :=
  let digits := s.take count
  let n := Numeral.digitsValue 0 digits
  if digits.length = count ∧ digits.all Char.isDigit ∧ least ≤ n ∧ n ≤ greatest then
    some (n, s.drop count)
  else none

def after? (mark : Char) : List Char → Option (List Char)
  | c :: rest => if c == mark then some rest else none
  | [] => none

def date? (s : List Char) : Option (List Char) := do
  let (year, s) ← field? 4 0 9999 s
  let (month, s) ← field? 2 1 12 (← after? '-' s)
  let (_, s) ← field? 2 1 (CivilDate.daysInMonth year month) (← after? '-' s)
  return s

def clock? (s : List Char) : Option (List Char) := do
  let (_, s) ← field? 2 0 23 s
  let (_, s) ← field? 2 0 59 (← after? ':' s)
  let (_, s) ← field? 2 0 60 (← after? ':' s)
  match s with
  | '.' :: rest =>
    let digits := rest.takeWhile Char.isDigit
    if digits.isEmpty then none else some (rest.drop digits.length)
  | _ => return s

/-- The distance from universal time after a time, if one is written there. -/
def offset? (s : List Char) : Option (List Char) :=
  match s with
  | 'Z' :: rest => some rest
  | 'z' :: rest => some rest
  | c :: rest =>
    if c == '+' || c == '-' then do
      let (_, s) ← field? 2 0 23 rest
      let (_, s) ← field? 2 0 59 (← after? ':' s)
      return s
    else some s
  | [] => some []

def time? (s : List Char) : Option (List Char) :=
  match date? s with
  | none => clock? s
  | some rest =>
    let isMark := rest.head?.any fun c => c == 'T' || c == 't' || c == ' '
    match if isMark then clock? (rest.drop 1) else none with
    | some rest => offset? rest
    | none => some rest

end Runbook.Toml
