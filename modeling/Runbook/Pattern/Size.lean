import Std.Data.HashMap
import Runbook.Pattern.Basic

/-!
The room that a pattern takes as an automaton over octets, once for each of the two directions in
which texts are searched. A pattern that takes more than a limit is refused.
-/

namespace Runbook.Text

/-- The ranges of octets, one after the other, that the characters of a range have in UTF-8. -/
abbrev OctetRow := List (Nat × Nat)

def octetsOf (n : Nat) : List Nat :=
  if n < 0x80 then [n]
  else if n < 0x800 then [0xC0 + n / 64, 0x80 + n % 64]
  else if n < 0x10000 then [0xE0 + n / 4096, 0x80 + n / 64 % 64, 0x80 + n % 64]
  else [0xF0 + n / 262144, 0x80 + n / 4096 % 64, 0x80 + n / 64 % 64, 0x80 + n % 64]

def octetRow (first last : Nat) : OctetRow := (octetsOf first).zip (octetsOf last)

/-- The rows of a range whose characters have equally many octets: the ends are cut off up to where
all values of the last octets are taken. `unit` is the number of those values. -/
def alignedRows (first last unit : Nat) : Nat → List OctetRow
  | 0 => [octetRow first last]
  | levels + 1 =>
    if first / unit = last / unit then [octetRow first last]
    else
      let start := (first + unit - 1) / unit * unit
      let stop := (last + 1) / unit * unit
      (if first < start then [octetRow first (start - 1)] else []) ++
        (if start < stop then alignedRows start (stop - 1) (64 * unit) levels else []) ++
        (if stop ≤ last then [octetRow stop last] else [])

/-- The code points with one, two, three and four octets, without the surrogates. -/
def octetClasses : List (Nat × Nat × Nat) :=
  [(0, 0x7F, 0), (0x80, 0x7FF, 1), (0x800, 0xD7FF, 2), (0xE000, 0xFFFF, 2),
    (0x10000, lastCodePoint, 3)]

def CodeSet.octetRows (s : CodeSet) : List OctetRow :=
  s.ranges.flatMap fun (first, last) =>
    octetClasses.flatMap fun (a, b, levels) =>
      if max first a ≤ min last b then alignedRows (max first a) (min last b) 64 levels else []

end Runbook.Text

namespace Runbook.Pattern

open Text (CodeSet OctetRow)

/-- The room of a state, of an arrow of a state of octets, and of an arrow of a fork. -/
def stateRoom : Nat := 32

def arrowRoom : Nat := 8

def forkRoom : Nat := 4

def greatestRoom : Nat := 10485760

/-! ### Sets -/

/-- The states of a set so far: each by its arrows, the ranges of octets and the numbers of the
states that they lead to. -/
structure States where
  numbers : Std.HashMap (List ((Nat × Nat) × Nat)) Nat
  arrows : Nat

/-- The number of the state with the arrows; equal states are one. -/
def States.number (states : States) (arrows : List ((Nat × Nat) × Nat)) : Nat × States :=
  match states.numbers[arrows]? with
  | some n => (n, states)
  | none =>
    let n := states.numbers.size + 1
    (n, ⟨states.numbers.insert arrows n, states.arrows + arrows.length⟩)

def groupedRows : List OctetRow → List ((Nat × Nat) × List OctetRow)
  | [] => []
  | [] :: rest => groupedRows rest
  | (first :: tail) :: rest =>
    match groupedRows rest with
    | (other, tails) :: groups =>
      if first = other then (other, tail :: tails) :: groups
      else (first, [tail]) :: (other, tails) :: groups
    | [] => [(first, [tail])]

/-- The state that takes rows, and the states with it; the rows are no longer than `length`. -/
def takeRows (states : States) (rows : List OctetRow) : Nat → Nat × States
  | 0 => (0, states)
  | length + 1 =>
    match groupedRows rows with
    | [] => (0, states)
    | groups =>
      let (arrows, states) := groups.foldl (fun (arrows, states) (range, tails) =>
        let (n, states) := takeRows states tails length
        (((range, n) :: arrows), states)) (([] : List ((Nat × Nat) × Nat)), states)
      states.number arrows.reverse

/-- The room of rows taken from the first octet on; rows that end alike share their ends. -/
def forwardRoom (rows : List OctetRow) : Nat :=
  let (_, states) := takeRows ⟨∅, 0⟩ rows 4
  stateRoom * (states.numbers.size + 1) + arrowRoom * states.arrows

/-- The number of ranges at the head of a row that another row has too. -/
def sharedLength : OctetRow → OctetRow → Nat
  | a :: as, b :: bs => if a = b then sharedLength as bs + 1 else 0
  | _, _ => 0

/-- The number of states of rows in order, each with its own beyond those of the row before. -/
def stateCount (before : OctetRow) : List OctetRow → Nat
  | [] => 0
  | row :: rest => row.length - sharedLength before row + stateCount row rest

/-- The room of rows taken from the last octet on; rows that begin alike share their beginnings. -/
def backwardRoom (rows : List OctetRow) : Nat :=
  stateRoom * (stateCount [] rows + 2) + forkRoom * rows.length

def setRoom (isForward : Bool) (s : CodeSet) : Nat :=
  match s.only? with
  | some n => stateRoom * (Text.octetsOf n).length
  | none =>
    if s.isAscii then 2 * stateRoom + arrowRoom * s.ranges.length
    else if isForward then forwardRoom s.octetRows
    else backwardRoom s.octetRows

/-! ### Patterns -/

def choiceRoom : Nat := stateRoom + 2 * forkRoom

/-- The room of an alternative; one that has alternatives itself adds them as they are. -/
def branchRoom (p : Pattern) (room : Nat) : Nat :=
  match p with
  | .choice _ _ => room - 2 * stateRoom
  | _ => room + forkRoom

/-- The room of a pattern. Groups are noted in the forward direction only. -/
def room (isForward : Bool) : Pattern → Nat
  | .empty => stateRoom
  | .oneOf s => setRoom isForward s
  | .anchor _ => stateRoom
  | .group _ p => (if isForward then 2 * stateRoom else 0) + room isForward p
  | .sequence p q => room isForward p + room isForward q
  | .choice p q =>
    2 * stateRoom + branchRoom p (room isForward p) + branchRoom q (room isForward q)
  | .repeated p least most _ =>
    let one := room isForward p
    match most with
    | none =>
      if least = 0 then
        if p.nullable then one + 2 * choiceRoom + stateRoom else one + choiceRoom
      else least * one + choiceRoom
    | some most =>
      if least = most then least * one
      else
        (if least = 0 then stateRoom else least * one) + stateRoom +
          (most - least) * (one + choiceRoom)

/-- The room for what every pattern has besides: the search for its start, the group of the whole
match, and the end. -/
def fixedRoom : Nat := 6 * stateRoom + 2 * arrowRoom

def fits (p : Pattern) : Bool :=
  room true p + fixedRoom ≤ greatestRoom && room false p + fixedRoom ≤ greatestRoom

end Runbook.Pattern
