/-!
Text in UTF-8, read from octets of which some may make up no character: every longest start of a
character that does not go on as one stands for a single replacement character.
-/

namespace Runbook.Text.Utf8

def replacement : Char := '\uFFFD'

/-- A character of which some octets are read: how many are to come, the bounds of the next one, and
the bits so far. -/
structure Started where
  missing : Nat
  least : UInt8
  greatest : UInt8
  bits : Nat
  deriving DecidableEq, Repr

/-- The start of a character of several octets. The bounds of the second octet leave out encodings
that are longer than needed, surrogates, and numbers beyond the last character. -/
def lead? (b : UInt8) : Option Started :=
  if 0xC2 ≤ b ∧ b ≤ 0xDF then some ⟨1, 0x80, 0xBF, b.toNat % 0x20⟩
  else if b = 0xE0 then some ⟨2, 0xA0, 0xBF, 0⟩
  else if b = 0xED then some ⟨2, 0x80, 0x9F, 0xD⟩
  else if 0xE1 ≤ b ∧ b ≤ 0xEF then some ⟨2, 0x80, 0xBF, b.toNat % 0x10⟩
  else if b = 0xF0 then some ⟨3, 0x90, 0xBF, 0⟩
  else if b = 0xF4 then some ⟨3, 0x80, 0x8F, 4⟩
  else if 0xF1 ≤ b ∧ b ≤ 0xF3 then some ⟨3, 0x80, 0xBF, b.toNat % 8⟩
  else none

def openWith (b : UInt8) : List Char × Option Started :=
  if b < 0x80 then ([Char.ofNat b.toNat], none)
  else match lead? b with
    | some started => ([], some started)
    | none => ([replacement], none)

/-- Reads an octet: the characters that are complete with it, and the one that is not. -/
def step (state : Option Started) (b : UInt8) : List Char × Option Started :=
  match state with
  | none => openWith b
  | some started =>
    if started.least ≤ b ∧ b ≤ started.greatest then
      let bits := started.bits * 0x40 + b.toNat % 0x40
      if started.missing ≤ 1 then ([Char.ofNat bits], none)
      else ([], some ⟨started.missing - 1, 0x80, 0xBF, bits⟩)
    else
      let (chars, next) := openWith b
      (replacement :: chars, next)

def decodeFrom (state : Option Started) : List UInt8 → List Char
  | [] => if state.isSome then [replacement] else []
  | b :: rest =>
    let (chars, next) := step state b
    chars ++ decodeFrom next rest

def decode (octets : List UInt8) : String := String.ofList (decodeFrom none octets)

def encode (s : String) : List UInt8 := s.toUTF8.data.toList

end Runbook.Text.Utf8
