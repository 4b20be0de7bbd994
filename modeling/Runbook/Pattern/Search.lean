import Runbook.Pattern.Basic
import Runbook.Pattern.Meaning

/-!
Patterns as programs: instructions that take a character, test a place, note a position, or try one
continuation before another; and the search for a pattern in a text. The first place where the
pattern matches counts, and there the continuations are tried in their order. A state, an
instruction at a position, that failed once fails whenever it is met again, so every state is tried
at most once.
-/

namespace Runbook.Pattern

inductive Instruction where
  | take (s : Text.CodeSet)
  | test (a : Anchor)
  | note (slot : Nat)
  | fork (first second : Nat)
  | jump (target : Nat)
  | accept
  deriving Repr, Inhabited

abbrev Program := Array Instruction

namespace Program

/-- Puts a fork where room was left for it. The preferred continuation comes first if greedy. -/
def setFork (program : Program) (place inside outside : Nat) (greedy : Bool) : Program :=
  program.setIfInBounds place (if greedy then .fork inside outside else .fork outside inside)

def optionally (greedy : Bool) (body : Program → Program) (program : Program) : Program :=
  let place := program.size
  let program := body (program.push .accept)
  setFork program place (place + 1) program.size greedy

def again (greedy : Bool) (body : Program → Program) (program : Program) : Program :=
  let start := program.size
  let program := body program
  let place := program.size
  setFork (program.push .accept) place start (place + 1) greedy

/-- Appends any number of repetitions; an empty one is taken at most once. -/
def anyNumber (greedy nullable : Bool) (body : Program → Program) (program : Program) : Program :=
  if nullable then optionally greedy (again greedy body) program
  else
    let place := program.size
    let program := (body (program.push .accept)).push (.jump place)
    setFork program place (place + 1) program.size greedy

def times (n : Nat) (body : Program → Program) (program : Program) : Program :=
  n.fold (fun _ _ p => body p) program

/-- Appends up to a number of repetitions, each inside the one before. -/
def upTo (greedy : Bool) (body : Program → Program) : Nat → Program → Program
  | 0 => id
  | n + 1 => optionally greedy fun program => upTo greedy body n (body program)

def append (p : Pattern) (program : Program) : Program :=
  match p with
  | .empty => program
  | .oneOf s => program.push (.take s)
  | .anchor a => program.push (.test a)
  | .group index p =>
    (append p (program.push (.note (2 * index)))).push (.note (2 * index + 1))
  | .sequence p q => append q (append p program)
  | .choice p q =>
    let place := program.size
    let program := append p (program.push .accept)
    let exit := program.size
    let program := append q (program.push .accept)
    (program.setIfInBounds place (.fork (place + 1) (exit + 1))).setIfInBounds exit
      (.jump program.size)
  | .repeated p least most greedy =>
    match most with
    | some most => upTo greedy (append p) (most - least) (times least (append p) program)
    | none =>
      if least = 0 then anyNumber greedy p.nullable (append p) program
      else again greedy (append p) (times (least - 1) (append p) program)

def ofPattern (p : Pattern) : Program := (append p #[]).push .accept

end Program

def isWordAt (ascii : Bool) (text : Array Char) (i : Nat) : Bool :=
  match text[i]? with
  | some c => if ascii then c.isAlphanum || c == '_' else Text.isWord c
  | none => false

def isWordBefore (ascii : Bool) (text : Array Char) (i : Nat) : Bool :=
  i > 0 && isWordAt ascii text (i - 1)

/-- Whether the place before the character at a position is of the kind. -/
def Anchor.isAt (text : Array Char) (i : Nat) : Anchor → Bool
  | .textStart => i == 0
  | .textEnd => i == text.size
  | .lineStart false => i == 0 || text[i - 1]? == some '\n'
  | .lineEnd false => i == text.size || text[i]? == some '\n'
  | .lineStart true =>
    i == 0 || text[i - 1]? == some '\n' ||
      (text[i - 1]? == some '\r' && text[i]? != some '\n')
  | .lineEnd true =>
    i == text.size || text[i]? == some '\r' ||
      (text[i]? == some '\n' && (i == 0 || text[i - 1]? != some '\r'))
  | .wordBoundary ascii => isWordBefore ascii text i != isWordAt ascii text i
  | .noWordBoundary ascii => isWordBefore ascii text i == isWordAt ascii text i
  | .wordStart ascii => !isWordBefore ascii text i && isWordAt ascii text i
  | .wordEnd ascii => isWordBefore ascii text i && !isWordAt ascii text i
  | .wordStartHalf ascii => !isWordBefore ascii text i
  | .wordEndHalf ascii => !isWordAt ascii text i

abbrev Slots := Array (Option Nat)

/-- What is left to do: try a state, or take back a note made on the way to one that failed. -/
inductive Task where
  | explore (place position : Nat)
  | restore (slot : Nat) (old : Option Nat)

/-- The tasks in order until one reaches the end of the program; `tried` holds the states met. -/
def explore (program : Program) (text : Array Char) (tasks : List Task) (slots : Slots)
    (tried : Array Bool) : Nat → Option Slots × Array Bool
  | 0 => (none, tried)
  | fuel + 1 =>
    match tasks with
    | [] => (none, tried)
    | .restore slot old :: rest =>
      explore program text rest (slots.setIfInBounds slot old) tried fuel
    | .explore place i :: rest =>
      let state := place * (text.size + 1) + i
      if tried.getD state true then explore program text rest slots tried fuel
      else
        let tried := tried.setIfInBounds state true
        match program[place]? with
        | none => explore program text rest slots tried fuel
        | some .accept => (some slots, tried)
        | some (.jump target) =>
          explore program text (.explore target i :: rest) slots tried fuel
        | some (.fork first second) =>
          explore program text (.explore first i :: .explore second i :: rest) slots tried fuel
        | some (.note slot) =>
          explore program text
            (.explore (place + 1) i :: .restore slot (slots.getD slot none) :: rest)
            (slots.setIfInBounds slot (some i)) tried fuel
        | some (.test a) =>
          let rest := if a.isAt text i then .explore (place + 1) i :: rest else rest
          explore program text rest slots tried fuel
        | some (.take s) =>
          let rest := match text[i]? with
            | some c => if s.has c then .explore (place + 1) (i + 1) :: rest else rest
            | none => rest
          explore program text rest slots tried fuel

def firstMatch (program : Program) (text : Array Char) (slots i : Nat) (tried : Array Bool) :
    Nat → Option Slots
  | 0 => none
  | fuel + 1 =>
    match explore program text [.explore 0 i] (Array.replicate slots none) tried
        (4 * (tried.size + 1)) with
    | (some found, _) => some found
    | (none, tried) => firstMatch program text slots (i + 1) tried fuel

/-- The text of a group in the first match of a pattern, if the group took part in it. -/
def firstGroup? (p : Pattern) (group : Nat) (s : String) : Option String := do
  let text := s.toList.toArray
  let program := Program.ofPattern p
  let states := program.size * (text.size + 1)
  let slots ← firstMatch program text (2 * group + 2) 0 (Array.replicate states false)
    (text.size + 1)
  let first ← (slots[2 * group]?).join
  let last ← (slots[2 * group + 1]?).join
  return String.ofList ((s.toList.drop first).take (last - first))

/-- Where a group begins and ends in the matches of a program, each search going on where the group
ended before. -/
def groupSpans (program : Program) (text : Array Char) (group i : Nat) :
    Nat → List (Nat × Nat)
  | 0 => []
  | fuel + 1 =>
    let untried := Array.replicate (program.size * (text.size + 1)) false
    match firstMatch program text (2 * group + 2) i untried (text.size + 1 - i) with
    | none => []
    | some slots =>
      match (slots[2 * group]?).join, (slots[2 * group + 1]?).join with
      | some first, some last =>
        (first, last) :: groupSpans program text group (max last (i + 1)) fuel
      | _, _ => []

/-- A text with other text in place of spans, of which each begins no earlier than the one before it
ends. `i` is the position at which the text begins. -/
def replaceSpans (replacement : List Char) (i : Nat) (text : List Char) :
    List (Nat × Nat) → List Char
  | [] => text
  | (first, last) :: rest =>
    text.take (first - i) ++ replacement ++
      replaceSpans replacement last (text.drop (last - i)) rest

/-- A text with other text in place of a group, wherever a pattern matches. -/
def replaceGroup (p : Pattern) (group : Nat) (replacement s : String) : String :=
  let text := s.toList.toArray
  let spans := groupSpans (Program.ofPattern p) text group 0 (text.size + 1)
  String.ofList (replaceSpans replacement.toList 0 s.toList spans)

/-- Whether a pattern matches anywhere in a text. -/
def occursIn (p : Pattern) (s : String) : Bool := (firstGroup? (.group 1 p) 1 s).isSome

end Runbook.Pattern
