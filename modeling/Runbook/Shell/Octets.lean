import Runbook.Text.Utf8

/-!
Texts of octets. The shell takes texts apart octet by octet, and holds each octet as the character
with its number. Patterns of file names and sets of octets name classes of them, and escapes stand
for single ones: octal numbers, and letters for control characters.
-/

namespace Runbook.Shell.Octets

def text (octets : List UInt8) : String :=
  String.ofList (octets.map fun b => Char.ofNat b.toNat)

def ofText (s : String) : List UInt8 := s.toList.map fun c => UInt8.ofNat c.toNat

def spell (s : String) : String := text (Text.Utf8.encode s)

def read (s : String) : String := Text.Utf8.decode (ofText s)

end Runbook.Shell.Octets

namespace Runbook.Shell.OctetClass

def isUpper (b : UInt8) : Bool := 65 ≤ b && b ≤ 90

def isLower (b : UInt8) : Bool := 97 ≤ b && b ≤ 122

def isAlpha (b : UInt8) : Bool := isUpper b || isLower b

def isDigit (b : UInt8) : Bool := 48 ≤ b && b ≤ 57

def isAlnum (b : UInt8) : Bool := isAlpha b || isDigit b

def isGraphic (b : UInt8) : Bool := 33 ≤ b && b ≤ 126

def table : List (String × (UInt8 → Bool)) :=
  [("alnum", isAlnum), ("alpha", isAlpha), ("blank", fun b => b == 32 || b == 9),
    ("cntrl", fun b => b < 32 || b == 127), ("digit", isDigit), ("graph", isGraphic),
    ("lower", isLower), ("print", fun b => b == 32 || isGraphic b),
    ("punct", fun b => isGraphic b && !isAlnum b),
    ("space", fun b => b == 32 || (9 ≤ b && b ≤ 13)), ("upper", isUpper),
    ("xdigit", fun b => isDigit b || (65 ≤ b && b ≤ 70) || (97 ≤ b && b ≤ 102))]

def find? (name : String) : Option (UInt8 → Bool) := table.lookup name

def names : List String := table.map Prod.fst

end Runbook.Shell.OctetClass

namespace Runbook.Shell.Escape

def octalDigits (width : Nat) (s : List Char) : List Char :=
  (s.takeWhile fun c => '0' ≤ c && c ≤ '7').take width

def octalValue (digits : List Char) : Nat := digits.foldl (fun n c => n * 8 + (c.toNat - 48)) 0

def control? : Char → Option Nat
  | 'a' => some 7
  | 'b' => some 8
  | 'e' => some 27
  | 'f' => some 12
  | 'n' => some 10
  | 'r' => some 13
  | 't' => some 9
  | 'v' => some 11
  | '\\' => some 92
  | _ => none

/-- What stands after a backslash: an octet and the rest; a backslash stands for itself before any
other character. -/
def escaped (s : List Char) : UInt8 × List Char :=
  match s with
  | [] => (92, [])
  | c :: rest =>
    let digits := octalDigits 3 s
    if !digits.isEmpty then (UInt8.ofNat (octalValue digits), s.drop digits.length)
    else match control? c with
      | some n => (UInt8.ofNat n, rest)
      | none => (92, s)

/-- The octets of a text whose octal escapes may start with a zero, and whether it goes on to its
end and is not cut off. `fuel` bounds its length. -/
def printed : Nat → List Char → List UInt8 × Bool
  | 0, _ => ([], true)
  | _, [] => ([], true)
  | fuel + 1, '\\' :: rest =>
    match rest with
    | 'c' :: _ => ([], false)
    | '0' :: digits =>
      let octal := octalDigits 3 digits
      let (octets, whole) := printed fuel (digits.drop octal.length)
      (UInt8.ofNat (octalValue octal) :: octets, whole)
    | _ =>
      let (octet, rest) := escaped rest
      let (octets, whole) := printed fuel rest
      (octet :: octets, whole)
  | fuel + 1, c :: rest =>
    let (octets, whole) := printed fuel rest
    (UInt8.ofNat c.toNat :: octets, whole)

def ofText (s : String) : List UInt8 × Bool := printed (s.length + 1) s.toList

end Runbook.Shell.Escape
