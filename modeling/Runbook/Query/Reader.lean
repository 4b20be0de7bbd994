import Runbook.Word
import Runbook.Query.Basic
import Runbook.Json.Number
import Runbook.Json.Token

/-!
Queries read from their texts. Blanks may stand between the parts of a query, and a function must
get arguments of its kinds.
-/

namespace Runbook.Query

def skip (s : List Char) : List Char := s.dropWhile Json.isSpace

def isNameStart (c : Char) : Bool := c.isAlpha || c == '_' || 0x80 ≤ c.toNat

def isNameChar (c : Char) : Bool := isNameStart c || c.isDigit

def bareName? (s : List Char) : Option (String × List Char) :=
  match s with
  | c :: _ =>
    if isNameStart c then some (String.ofList (s.takeWhile isNameChar), s.dropWhile isNameChar)
    else none
  | [] => none

def codeUnit? (s : List Char) : Option (Nat × List Char) :=
  if (s.take 4).length < 4 then none else (Json.hexValue? (s.take 4)).map (·, s.drop 4)

/-- The character of a code unit, or of two that make up one character; the first of two begins
with a capital letter. -/
def unicode? (s : List Char) : Option (Char × List Char) := do
  let isCapital := s.head? == some 'D'
  let (unit, s) ← codeUnit? s
  if 0xD800 ≤ unit ∧ unit ≤ 0xDBFF then
    match if isCapital then s else [] with
    | '\\' :: 'u' :: s =>
      let (low, s) ← codeUnit? s
      if 0xDC00 ≤ low ∧ low ≤ 0xDFFF then
        return (Char.ofNat (0x10000 + (unit - 0xD800) * 0x400 + (low - 0xDC00)), s)
      else none
    | _ => none
  else if 0xDC00 ≤ unit ∧ unit ≤ 0xDFFF then none
  else return (Char.ofNat unit, s)

/-- The rest of a text in quotes, read so far in reverse; `fuel` bounds its length. -/
def quotedFrom (quote : Char) (read : List Char) (s : List Char) :
    Nat → Option (String × List Char)
  | 0 => none
  | fuel + 1 =>
    match s with
    | [] => none
    | c :: s =>
      if c == quote then some (String.ofList read.reverse, s)
      else if c == '\\' then
        match s with
        | 'u' :: s => do
          let (d, s) ← unicode? s
          quotedFrom quote (d :: read) s fuel
        | d :: s =>
          if d == '"' || d == '\'' then
            if d == quote then quotedFrom quote (d :: read) s fuel else none
          else do
            let e ← Json.escaped? d
            quotedFrom quote (e :: read) s fuel
        | [] => none
      else if c.toNat < 0x20 then none
      else quotedFrom quote (c :: read) s fuel

def quoted? (s : List Char) : Option (String × List Char) :=
  match s with
  | c :: rest => if c == '"' || c == '\'' then quotedFrom c [] rest (rest.length + 1) else none
  | [] => none

/-- The greatest magnitude of an index: the integers that a double tells apart. -/
def greatestIndex : Nat := Word.greatest 53

/-- An integer without a zero before other digits and without a negative zero. -/
def int? (s : List Char) : Option (Int × List Char) :=
  let (negative, s) := match s with
    | '-' :: s => (true, s)
    | s => (false, s)
  let digits := s.takeWhile Char.isDigit
  let rest := s.dropWhile Char.isDigit
  let n := Numeral.digitsValue 0 digits
  if digits.isEmpty || (digits.head? == some '0' && (negative || digits.length > 1)) ||
      n > greatestIndex then none
  else some (if negative then -(n : Int) else n, rest)

/-- A number as a JSON text writes it, as long as possible. -/
def numberLiteral? (s : List Char) : Option (Document × List Char) :=
  let text := s.takeWhile Json.isNumeral
  (Json.number? text).map (·, s.dropWhile Json.isNumeral)

def word? (word : String) (s : List Char) : Option (List Char) :=
  if word.toList.isPrefixOf s then some (s.drop word.length) else none

/-- A string, a number, or one of the three words. -/
def literal? (s : List Char) : Option (Document × List Char) :=
  match quoted? s with
  | some (text, s) => some (.text text, s)
  | none =>
    match word? "null" s, word? "true" s, word? "false" s with
    | some s, _, _ => some (.null, s)
    | _, some s, _ => some (.bool true, s)
    | _, _, some s => some (.bool false, s)
    | _, _, _ => numberLiteral? s

def comparison? : List Char → Option (Comparison × List Char)
  | '=' :: '=' :: s => some (.equal, s)
  | '!' :: '=' :: s => some (.notEqual, s)
  | '<' :: '=' :: s => some (.lessEqual, s)
  | '>' :: '=' :: s => some (.greaterEqual, s)
  | '<' :: s => some (.less, s)
  | '>' :: s => some (.greater, s)
  | _ => none

def functionName? (s : List Char) : Option (FunctionName × List Char) :=
  let isPart := fun c : Char => c.isLower || c == '_' || c.isDigit
  let name := match String.ofList (s.takeWhile isPart) with
    | "length" => some FunctionName.length
    | "count" => some .count
    | "match" => some .fullMatch
    | "search" => some .search
    | "value" => some .value
    | _ => none
  match name, s.dropWhile isPart with
  | some name, '(' :: rest => some (name, rest)
  | _, _ => none

def optionalInt (s : List Char) : Option Int × List Char :=
  match int? s with
  | some (n, s) => (some n, skip s)
  | none => (none, s)

/-- A slice; at least one colon tells it from an index. -/
def slice? (s : List Char) : Option (Selector × List Char) :=
  let (first, s) := optionalInt s
  match s with
  | ':' :: s =>
    let (last, s) := optionalInt (skip s)
    match s with
    | ':' :: rest =>
      match int? (skip rest) with
      | some (step, rest) => some (.slice first last (some step), rest)
      | none => some (.slice first last none, rest)
    | _ => some (.slice first last none, s)
  | _ => none

mutual

/-- The segments of a path, each after blanks unless it goes into the depth; what does not belong to
them is left. -/
def segments? (s : List Char) : Nat → Option (List Segment × List Char)
  | 0 => none
  | fuel + 1 =>
    match s with
    | '.' :: '.' :: '[' :: rest => do
      let (selectors, rest) ← selectors? rest fuel
      let (others, rest) ← segments? rest fuel
      return (.mk true selectors :: others, rest)
    | '.' :: '.' :: '*' :: rest => do
      let (others, rest) ← segments? rest fuel
      return (.mk true [.wildcard] :: others, rest)
    | '.' :: '.' :: rest => do
      let (name, rest) ← bareName? rest
      let (others, rest) ← segments? rest fuel
      return (.mk true [.name name] :: others, rest)
    | s =>
      match skip s with
      | '.' :: '*' :: rest => do
        let (others, rest) ← segments? rest fuel
        return (.mk false [.wildcard] :: others, rest)
      | '.' :: rest => do
        let (name, rest) ← bareName? rest
        let (others, rest) ← segments? rest fuel
        return (.mk false [.name name] :: others, rest)
      | '[' :: rest => do
        let (selectors, rest) ← selectors? rest fuel
        let (others, rest) ← segments? rest fuel
        return (.mk false selectors :: others, rest)
      | _ => some ([], s)

def selectors? (s : List Char) : Nat → Option (List Selector × List Char)
  | 0 => none
  | fuel + 1 => do
    let (selector, s) ← selector? (skip s) fuel
    match skip s with
    | ',' :: rest =>
      let (others, rest) ← selectors? rest fuel
      return (selector :: others, rest)
    | ']' :: rest => return ([selector], rest)
    | _ => none

def selector? (s : List Char) : Nat → Option (Selector × List Char)
  | 0 => none
  | fuel + 1 =>
    match s with
    | '*' :: rest => some (.wildcard, rest)
    | '?' :: rest => do
      let (test, rest) ← anyTest? (skip rest) fuel
      return (.filter test, rest)
    | _ =>
      match quoted? s, slice? s, int? s with
      | some (name, rest), _, _ => some (.name name, rest)
      | none, some found, _ => some found
      | none, none, some (n, rest) => some (.index n, rest)
      | none, none, none => none

def anyTest? (s : List Char) : Nat → Option (Test × List Char)
  | 0 => none
  | fuel + 1 => do
    let (first, s) ← allTest? s fuel
    match skip s with
    | '|' :: '|' :: rest =>
      let (others, rest) ← anyTest? (skip rest) fuel
      return (.or first others, rest)
    | _ => return (first, s)

def allTest? (s : List Char) : Nat → Option (Test × List Char)
  | 0 => none
  | fuel + 1 => do
    let (first, s) ← basicTest? s fuel
    match skip s with
    | '&' :: '&' :: rest =>
      let (others, rest) ← allTest? (skip rest) fuel
      return (.and first others, rest)
    | _ => return (first, s)

/-- A test in parentheses, a comparison, or the existence of a value; the first and the last may be
negated. -/
def basicTest? (s : List Char) : Nat → Option (Test × List Char)
  | 0 => none
  | fuel + 1 =>
    match s with
    | '!' :: rest =>
      match skip rest with
      | '(' :: rest => do
        let (test, rest) ← inParentheses? rest fuel
        return (.not test, rest)
      | rest => do
        let (test, rest) ← existence? rest fuel
        return (.not test, rest)
    | '(' :: rest => inParentheses? rest fuel
    | _ =>
      match compared? s fuel with
      | some found => some found
      | none => existence? s fuel

def inParentheses? (s : List Char) : Nat → Option (Test × List Char)
  | 0 => none
  | fuel + 1 => do
    let (test, s) ← anyTest? (skip s) fuel
    match skip s with
    | ')' :: rest => return (test, rest)
    | _ => none

def compared? (s : List Char) : Nat → Option (Test × List Char)
  | 0 => none
  | fuel + 1 => do
    let (left, s) ← operand? s fuel
    let (comparison, s) ← comparison? (skip s)
    let (right, s) ← operand? (skip s) fuel
    if left.isValue && right.isValue then return (.compare comparison left right, s) else none

def existence? (s : List Char) : Nat → Option (Test × List Char)
  | 0 => none
  | fuel + 1 => do
    match ← operand? s fuel with
    | (.path path, s) => return (.found path, s)
    | (.call call, s) => if call.isLogical then return (.holds call, s) else none
    | _ => none

def operand? (s : List Char) : Nat → Option (Operand × List Char)
  | 0 => none
  | fuel + 1 =>
    match s with
    | '@' :: rest => do
      let (segments, rest) ← segments? rest fuel
      return (.path (.mk false segments), rest)
    | '$' :: rest => do
      let (segments, rest) ← segments? rest fuel
      return (.path (.mk true segments), rest)
    | _ =>
      match functionName? s with
      | some (name, rest) => do
        let (arguments, rest) ← arguments? (skip rest) fuel
        if name.accepts arguments then return (.call (.mk name arguments), rest) else none
      | none => do
        let (d, rest) ← literal? s
        return (.literal d, rest)

def arguments? (s : List Char) : Nat → Option (List Operand × List Char)
  | 0 => none
  | fuel + 1 => do
    let (argument, s) ← operand? s fuel
    match skip s with
    | ',' :: rest =>
      let (others, rest) ← arguments? (skip rest) fuel
      return (argument :: others, rest)
    | ')' :: rest => return ([argument], rest)
    | _ => none

end

def read? (s : String) : Option Path :=
  match s.toList with
  | '$' :: rest =>
    match segments? rest (8 * rest.length + 8) with
    | some (segments, []) => some (.mk true segments)
    | _ => none
  | _ => none

end Runbook.Query
