import Runbook.Word
import Runbook.Document
import Runbook.Decimal.Reading
import Runbook.Json.Token

/-!
The core scheme of YAML: which plain scalars are null, booleans and numbers. A number that looks
like a decimal with a zero in front is a text, and an integer that fits no 64-bit word is refused.
-/

namespace Runbook.Yaml

def isNull (s : String) : Bool :=
  s.isEmpty || s == "null" || s == "Null" || s == "NULL" || s == "~"

def bool? (s : String) : Option Bool :=
  if s == "true" || s == "True" || s == "TRUE" then some true
  else if s == "false" || s == "False" || s == "FALSE" then some false
  else none

def digitOf? (base : Nat) (c : Char) : Option Nat := (Json.hexDigit? c).filter (· < base)

def natOf? (base : Nat) (s : List Char) : Option Nat :=
  if s.isEmpty then none
  else s.foldlM (fun n c => (base * n + ·) <$> digitOf? base c) 0

def announcedBase? (s : List Char) : Option (Nat × List Char) :=
  match s with
  | '0' :: 'x' :: rest => some (16, rest)
  | '0' :: 'o' :: rest => some (8, rest)
  | '0' :: 'b' :: rest => some (2, rest)
  | _ => none

def hasLeadingZero (s : List Char) : Bool :=
  let s := match s with
    | '-' :: rest | '+' :: rest => rest
    | rest => rest
  s.length > 1 && s.head? == some '0' && s.all Char.isDigit

def magnitude? (whole s : List Char) : Option Nat :=
  match announcedBase? s with
  | some (base, rest) => natOf? base rest
  | none => if hasLeadingZero whole then none else natOf? 10 s

def int? (s : List Char) : Option Int :=
  match s with
  | '-' :: rest => (magnitude? s rest).map fun n => -(n : Int)
  | '+' :: rest => (magnitude? s rest).map Int.ofNat
  | _ => (magnitude? s s).map Int.ofNat

/-- The bounds of the integers that are told apart from real numbers: 128-bit words. -/
def isWideInteger (n : Int) : Bool := -(Word.count 127 : Int) ≤ n && n < (Word.count 128 : Int)

/-- The number that a scalar writes with a point or an exponent, if it is finite. -/
def real? (s : List Char) : Option Float :=
  let unsigned := match s with
    | '+' :: rest => rest
    | rest => rest
  if s.head? == some '+' && (unsigned.head? == some '+' || unsigned.head? == some '-') then none
  else if [".inf", ".Inf", ".INF"].contains (String.ofList unsigned) then some (1.0 / 0.0)
  else if ["-.inf", "-.Inf", "-.INF"].contains (String.ofList s) then some (-1.0 / 0.0)
  else if [".nan", ".NaN", ".NAN"].contains (String.ofList s) then some (0.0 / 0.0)
  else (floatOfText? unsigned).filter Float.isFinite

/-- An integer as a document; one that only a 128-bit word holds is refused. -/
def integerDocument? (n : Int) : Option Document :=
  if Document.holdsInteger n then some (.integer n) else none

def plainDocument? (text : String) : Option Document :=
  let s := text.toList
  if isNull text then some .null
  else match bool? text with
    | some b => some (.bool b)
    | none =>
      match (int? s).filter isWideInteger with
      | some n => integerDocument? n
      | none =>
        if hasLeadingZero s then some (.text text)
        else match real? s with
          | some x => some (.ofFloat x)
          | none => some (.text text)

def standardTag (name : String) : String := "tag:yaml.org,2002:" ++ name

/-- The document of a scalar. A standard tag of a scalar asks for that kind of value, and a tag of
the text's own is refused. -/
def scalarDocument? (tag : Option String) (text : String) (plain : Bool) : Option Document :=
  match tag with
  | none => if plain then plainDocument? text else some (.text text)
  | some t =>
    if t.startsWith "!" then none
    else if t == standardTag "bool" then (bool? text).map .bool
    else if t == standardTag "int" then
      ((int? text.toList).filter isWideInteger).bind integerDocument?
    else if t == standardTag "float" then (real? text.toList).map .ofFloat
    else if t == standardTag "null" then
      if isNull text && !text.isEmpty then some .null else none
    else some (.text text)

end Runbook.Yaml
