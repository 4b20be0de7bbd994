/-!
Tokens of a JSON text. The reader goes through the text once, holding the token it is inside of;
control characters inside strings, lone surrogates and unknown words are refused.
-/

namespace Runbook.Json

inductive Token where
  | openObject | closeObject | openList | closeList | comma | colon
  | null | bool (value : Bool) | text (value : String) | number (numeral : List Char)
  deriving DecidableEq, Repr

/-- The token that the reader is inside of. Characters read are kept in reverse. -/
inductive Inside where
  | nothing
  | numeral (read : List Char)
  | word (read : List Char)
  | text (read : List Char)
  | escape (read : List Char)
  | unicode (read : List Char) (high : Option Nat) (digits : List Char)
  | lowEscape (read : List Char) (high : Nat)
  | lowUnicode (read : List Char) (high : Nat)
  deriving Repr

def isSpace (c : Char) : Bool := c == ' ' || c == '\t' || c == '\n' || c == '\r'

def isNumeral (c : Char) : Bool :=
  c.isDigit || c == '-' || c == '+' || c == '.' || c == 'e' || c == 'E'

def hexDigit? (c : Char) : Option Nat :=
  if '0' ≤ c ∧ c ≤ '9' then some (c.toNat - 48)
  else if 'a' ≤ c ∧ c ≤ 'f' then some (c.toNat - 87)
  else if 'A' ≤ c ∧ c ≤ 'F' then some (c.toNat - 55)
  else none

def hexValue? (digits : List Char) : Option Nat :=
  digits.foldlM (fun n c => (16 * n + ·) <$> hexDigit? c) 0

/-- The character that stands after a backslash for another one. -/
def escaped? : Char → Option Char
  | '"' => some '"'
  | '\\' => some '\\'
  | '/' => some '/'
  | 'b' => some '\x08'
  | 'f' => some '\x0c'
  | 'n' => some '\n'
  | 'r' => some '\r'
  | 't' => some '\t'
  | _ => none

def wordToken? (read : List Char) : Option Token :=
  if read = ['n', 'u', 'l', 'l'] then some .null
  else if read = ['t', 'r', 'u', 'e'] then some (.bool true)
  else if read = ['f', 'a', 'l', 's', 'e'] then some (.bool false)
  else none

def start (c : Char) : Option (List Token × Inside) :=
  if isSpace c then some ([], .nothing)
  else if c == '\x7b' then some ([.openObject], .nothing)
  else if c == '\x7d' then some ([.closeObject], .nothing)
  else if c == '[' then some ([.openList], .nothing)
  else if c == ']' then some ([.closeList], .nothing)
  else if c == ',' then some ([.comma], .nothing)
  else if c == ':' then some ([.colon], .nothing)
  else if c == '"' then some ([], .text [])
  else if c == '-' || c.isDigit then some ([], .numeral [c])
  else if c.isAlpha then some ([], .word [c])
  else none

/-- One more character: the tokens it completes, and what the reader is inside of after it. -/
def step : Inside → Char → Option (List Token × Inside)
  | .nothing, c => start c
  | .numeral read, c =>
    if isNumeral c then some ([], .numeral (c :: read))
    else (start c).map fun (tokens, inside) => (.number read.reverse :: tokens, inside)
  | .word read, c =>
    if c.isAlpha then some ([], .word (c :: read))
    else do
      let token ← wordToken? read.reverse
      let (tokens, inside) ← start c
      return (token :: tokens, inside)
  | .text read, c =>
    if c == '"' then some ([.text (String.ofList read.reverse)], .nothing)
    else if c == '\\' then some ([], .escape read)
    else if c.toNat < 0x20 then none
    else some ([], .text (c :: read))
  | .escape read, c =>
    if c == 'u' then some ([], .unicode read none [])
    else (escaped? c).map fun d => ([], .text (d :: read))
  | .unicode read high digits, c =>
    if digits.length < 3 then
      if (hexDigit? c).isSome then some ([], .unicode read high (digits ++ [c])) else none
    else do
      let unit ← hexValue? (digits ++ [c])
      match high with
      | some h =>
        if 0xDC00 ≤ unit ∧ unit ≤ 0xDFFF then
          return ([], .text (Char.ofNat (0x10000 + (h - 0xD800) * 0x400 + (unit - 0xDC00)) :: read))
        else none
      | none =>
        if 0xD800 ≤ unit ∧ unit ≤ 0xDBFF then return ([], .lowEscape read unit)
        else if 0xDC00 ≤ unit ∧ unit ≤ 0xDFFF then none
        else return ([], .text (Char.ofNat unit :: read))
  | .lowEscape read high, c => if c == '\\' then some ([], .lowUnicode read high) else none
  | .lowUnicode read high, c => if c == 'u' then some ([], .unicode read (some high) []) else none

def finish : Inside → Option (List Token)
  | .nothing => some []
  | .numeral read => some [.number read.reverse]
  | .word read => (wordToken? read.reverse).map ([·])
  | _ => none

def tokensFrom (inside : Inside) : List Char → Option (List Token)
  | [] => finish inside
  | c :: rest => do
    let (tokens, next) ← step inside c
    let others ← tokensFrom next rest
    return tokens ++ others

def tokens? (s : List Char) : Option (List Token) := tokensFrom .nothing s

end Runbook.Json
