import Runbook.Shell.Lexicon
import Runbook.Word
import Runbook.Bindings
import Runbook.Decimal.Reading

/-!
Arithmetic of the command shell, on signed 64-bit words. An expression may assign variables. What it
does not need, after one side of it has settled the value, is read but not evaluated.
-/

namespace Runbook.Shell.Arithmetic

inductive Fault where
  | divisionByZero
  | malformed (expected : String)
  | illegalNumber (text : String)
  | readOnly (name : String)
  deriving DecidableEq, Repr

/-! ### Numbers -/

/-- The signed 64-bit word that a number stands for. -/
def wrapped (n : Int) : Int := n.bmod (Word.count 64)

def greatest : Int := Word.count 63 - 1

def least : Int := -Word.count 63

/-- Whether a number is a signed 64-bit word. -/
def fits (n : Int) : Bool := least ≤ n && n ≤ greatest

/-- The signed 64-bit word that is nearest to a number. -/
def nearest (n : Int) : Int := max least (min n greatest)

def isBlank (c : Char) : Bool := c == ' ' || c == '\t' || c == '\n'

def digitValue (c : Char) : Nat :=
  if c.isDigit then c.toNat - 48
  else if 'a' ≤ c ∧ c ≤ 'f' then c.toNat - 87
  else if 'A' ≤ c ∧ c ≤ 'F' then c.toNat - 55
  else 99

/-- The value of the digits of a base at the start of a text, and what is left. -/
def digits (base : Nat) (s : List Char) : Nat × List Char :=
  let taken := s.takeWhile fun c => digitValue c < base
  (taken.foldl (fun n c => n * base + digitValue c) 0, s.drop taken.length)

/-- A numeral: hexadecimal, octal after a zero, or decimal. Without a digit it is zero. -/
def numeral (s : List Char) : Nat × List Char :=
  match s with
  | '0' :: x :: d :: rest =>
    if (x == 'x' || x == 'X') && digitValue d < 16 then digits 16 (d :: rest)
    else digits 8 (x :: d :: rest)
  | '0' :: rest => digits 8 rest
  | s => digits 10 s

/-- A character that may stand around the value of a variable. -/
def isSpace (c : Char) : Bool := isBlank c || c == '\r' || c == Char.ofNat 11 || c == Char.ofNat 12

/-- The number that the value of a variable stands for, which is zero if nothing is written. -/
def number? (text : String) : Option Int :=
  let s := text.toList.dropWhile isSpace
  let (negative, unsigned) := Numeral.sign s
  let (magnitude, rest) := numeral unsigned
  let n : Int := if negative then -magnitude else magnitude
  let rest := if unsigned.head?.any Char.isDigit then rest else s
  if rest.all isSpace && fits n then some n else none

/-! ### Operators -/

def truth (b : Bool) : Int := if b then 1 else 0

/-- A binary operator: its text, and what it computes. -/
structure Operator where
  text : String
  apply : Int → Int → Option Int

def total (f : Int → Int → Int) : Int → Int → Option Int := fun a b => some (wrapped (f a b))

def unlessZero (f : Int → Int → Int) : Int → Int → Option Int :=
  fun a b => if b = 0 then none else some (wrapped (f a b))

def bits (n : Int) : Nat := (n % Word.count 64).toNat

def bitwise (f : Nat → Nat → Nat) : Int → Int → Option Int :=
  total fun a b => (f (bits a) (bits b) : Int)

def product : Operator := ⟨"*", total (· * ·)⟩

def quotient : Operator := ⟨"/", unlessZero Int.tdiv⟩

def remainder : Operator := ⟨"%", unlessZero Int.tmod⟩

def sum : Operator := ⟨"+", total (· + ·)⟩

def difference : Operator := ⟨"-", total (· - ·)⟩

def shiftLeft : Operator := ⟨"<<", total fun a b => a * Nat.pow 2 (b % 64).toNat⟩

def shiftRight : Operator := ⟨">>", total fun a b => a / Nat.pow 2 (b % 64).toNat⟩

def bitAnd : Operator := ⟨"&", bitwise (· &&& ·)⟩

def bitXor : Operator := ⟨"^", bitwise (· ^^^ ·)⟩

def bitOr : Operator := ⟨"|", bitwise (· ||| ·)⟩

/-- The operators by precedence, those that bind least come first. -/
def levels : List (List Operator) :=
  [[bitOr], [bitXor], [bitAnd],
    [⟨"==", total fun a b => truth (a == b)⟩, ⟨"!=", total fun a b => truth (a != b)⟩],
    [⟨"<=", total fun a b => truth (a ≤ b)⟩, ⟨">=", total fun a b => truth (b ≤ a)⟩,
      ⟨"<", total fun a b => truth (a < b)⟩, ⟨">", total fun a b => truth (b < a)⟩],
    [shiftLeft, shiftRight], [sum, difference], [product, quotient, remainder]]

def assignable : List Operator :=
  [product, quotient, remainder, sum, difference, shiftLeft, shiftRight, bitAnd, bitXor, bitOr]

/-! ### Tokens -/

/-- A part of an expression; nothing can be read after a bad one. -/
inductive Token where
  | number (n : Int)
  | name (name : String)
  | mark (text : String)
  | bad
  deriving DecidableEq, Repr

/-- All marks; none comes after one that it starts with. -/
def marks : List String :=
  ["<<=", ">>=", "==", "!=", "<=", ">=", "<<", ">>", "||", "&&", "*=", "/=", "%=", "+=", "-=", "&=",
    "^=", "|=", "=", "<", ">", "|", "&", "^", "+", "-", "*", "/", "%", "!", "~", "(", ")", "?", ":"]

/-- The tokens of an expression; `fuel` bounds its length. -/
def tokens : Nat → List Char → List Token
  | 0, _ => []
  | _, [] => []
  | fuel + 1, c :: rest =>
    if isBlank c then tokens fuel rest
    else if c.isDigit then
      let (n, rest) := numeral (c :: rest)
      .number (nearest n) :: tokens fuel rest
    else if Lexicon.isNameStart c then
      let name := (c :: rest).takeWhile Lexicon.isNameChar
      .name (String.ofList name) :: tokens fuel ((c :: rest).drop name.length)
    else match marks.find? fun m => m.toList.isPrefixOf (c :: rest) with
      | some m => .mark m :: tokens fuel ((c :: rest).drop m.length)
      | none => [.bad]

/-! ### Expressions -/

/-- What is left of an expression, the values of the variables, and the names that keep theirs. -/
structure Scan where
  rest : List Token
  vars : Bindings String
  constant : List String

abbrev Scanning (α : Type) := StateT Scan (Except Fault) α

def skip (n : Nat) : Scanning Unit := modify fun s => { s with rest := s.rest.drop n }

/-- Takes a mark if it comes next. -/
def accept (text : String) : Scanning Bool := do
  if (← get).rest.head? == some (.mark text) then
    skip 1
    return true
  else return false

def expect (text : String) : Scanning Unit := do
  if !(← accept text) then throw (.malformed s!"'{text}'")

def acceptOne : List Operator → Scanning (Option Operator)
  | [] => return none
  | o :: rest => do if ← accept o.text then return some o else acceptOne rest

def apply (o : Operator) (a b : Int) : Scanning Int :=
  match o.apply a b with
  | some n => return n
  | none => throw .divisionByZero

/-- The value of a variable; one that is not set is zero. -/
def valueOf (name : String) : Scanning Int := do
  let text := ((← get).vars.find? name).getD ""
  match number? text with
  | some n => return n
  | none => throw (.illegalNumber text)

/-- Sets a variable to what an operator makes of its value, or to a value. -/
def assign (name : String) (operator? : Option Operator) (n : Int) : Scanning Int := do
  let value ← match operator? with
    | some o => do apply o (← valueOf name) n
    | none => pure n
  if (← get).constant.contains name then throw (.readOnly name)
  modify fun s => { s with vars := s.vars.bind name (toString value) }
  return value

/-- The variable that is assigned next, if one is, and the operator that is joined with that. -/
def assignment? : List Token → Option (String × Option Operator)
  | .name name :: .mark "=" :: _ => some (name, none)
  | .name name :: .mark m :: _ =>
    (assignable.find? fun o => o.text ++ "=" == m).map fun o => (name, some o)
  | _ => none

mutual

/-- A number, a variable, a sign, or an expression in parentheses. Only what is live is evaluated.
-/
def primary (live : Bool) : Nat → Scanning Int
  | 0 => throw (.malformed "primary")
  | fuel + 1 => do
    match (← get).rest with
    | .number n :: _ =>
      skip 1
      return n
    | .name name :: _ =>
      skip 1
      if live then valueOf name else return 0
    | .mark "(" :: _ =>
      skip 1
      let n ← assignment live fuel
      expect ")"
      return n
    | .mark "+" :: _ =>
      skip 1
      primary live fuel
    | .mark "-" :: _ =>
      skip 1
      return wrapped (-(← primary live fuel))
    | .mark "!" :: _ =>
      skip 1
      return truth ((← primary live fuel) == 0)
    | .mark "~" :: _ =>
      skip 1
      return -1 - (← primary live fuel)
    | _ => throw (.malformed "primary")

/-- Operands of operators that bind at least as much as those of the first level. -/
def operands (live : Bool) (levels : List (List Operator)) : Nat → Scanning Int
  | 0 => throw (.malformed "primary")
  | fuel + 1 =>
    match levels with
    | [] => primary live fuel
    | operators :: tighter => do
      let first ← operands live tighter fuel
      further live operators tighter first fuel

def further (live : Bool) (operators : List Operator) (tighter : List (List Operator)) (n : Int) :
    Nat → Scanning Int
  | 0 => throw (.malformed "primary")
  | fuel + 1 => do
    match ← acceptOne operators with
    | none => return n
    | some o =>
      let next ← operands live tighter fuel
      further live operators tighter (← if live then apply o n next else pure next) fuel

def conjunction (live : Bool) : Nat → Scanning Int
  | 0 => throw (.malformed "primary")
  | fuel + 1 => do
    let a ← operands live levels fuel
    if ← accept "&&" then
      let b ← conjunction (live && a != 0) fuel
      return truth (a != 0 && b != 0)
    else return a

def disjunction (live : Bool) : Nat → Scanning Int
  | 0 => throw (.malformed "primary")
  | fuel + 1 => do
    let a ← conjunction live fuel
    if ← accept "||" then
      let b ← disjunction (live && a == 0) fuel
      return truth (a != 0 || b != 0)
    else return a

def choice (live : Bool) : Nat → Scanning Int
  | 0 => throw (.malformed "primary")
  | fuel + 1 => do
    let a ← disjunction live fuel
    if ← accept "?" then
      let yes ← assignment (live && a != 0) fuel
      expect ":"
      let no ← choice (live && a == 0) fuel
      return if a != 0 then yes else no
    else return a

def assignment (live : Bool) : Nat → Scanning Int
  | 0 => throw (.malformed "primary")
  | fuel + 1 => do
    match assignment? (← get).rest with
    | none => choice live fuel
    | some (name, operator?) =>
      skip 2
      let n ← assignment live fuel
      if live then assign name operator? n else return n

end

def evaluate (vars : Bindings String) (constant : List String) (expression : String) :
    Except Fault (Int × Bindings String) := do
  let s := tokens (expression.length + 1) expression.toList
  let (n, scan) ← (assignment true (20 * s.length + 40)).run ⟨s, vars, constant⟩
  if scan.rest.isEmpty then return (n, scan.vars) else throw (.malformed "EOF")

end Runbook.Shell.Arithmetic
