import Runbook.Text.Blank
import Runbook.Text.Utf8

/-!
Lines read from octets that arrive in pieces. The octets after the last line feed are kept until
more arrive, so that no character and no line ending is taken apart.
-/

namespace Runbook

structure LineBuffer where
  pending : List UInt8
  deriving DecidableEq, Repr

namespace LineBuffer

def empty : LineBuffer := ⟨[]⟩

def lineFeed : UInt8 := 10

def carriageReturn : UInt8 := 13

/-- The segments that end at a line feed, and the octets after the last one. -/
def segments : List UInt8 → List (List UInt8) × List UInt8
  | [] => ([], [])
  | b :: rest =>
    match segments rest with
    | (complete, tail) =>
      if b = lineFeed then ([] :: complete, tail)
      else match complete with
        | [] => ([], b :: tail)
        | first :: others => ((b :: first) :: others, tail)

def dropReturn (segment : List UInt8) : List UInt8 :=
  if segment.getLast? = some carriageReturn then segment.dropLast else segment

def push (b : LineBuffer) (piece : List UInt8) : List String × LineBuffer :=
  let (complete, tail) := segments (b.pending ++ piece)
  (complete.map fun segment => Text.Utf8.decode (dropReturn segment), ⟨tail⟩)

/-- The octets that are left as a last line, unless it is blank. -/
def finish (b : LineBuffer) : Option String × LineBuffer :=
  let rest := Text.Utf8.decode b.pending
  (if isBlank rest then none else some rest, empty)

end LineBuffer

end Runbook
