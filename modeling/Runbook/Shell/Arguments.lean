/-!
Options at the start of arguments: letters after a dash, some of which take values. They end at an
argument of two dashes, or before one that is no option.
-/

namespace Runbook.Shell

namespace Arguments

/-- The options that the letters of an argument ask for, and the last of them if its value is the
next argument; or why they are refused. -/
def letters (plain valued : List Char) :
    List Char → Except String (List (Char × String) × Option Char)
  | [] => .ok ([], none)
  | c :: rest =>
    if valued.contains c then
      .ok (if rest.isEmpty then ([], some c) else ([(c, String.ofList rest)], none))
    else if plain.contains c then do
      let (found, open?) ← letters plain valued rest
      return ((c, "") :: found, open?)
    else .error s!"Illegal option -{c}"

/-- The options at the start of arguments, with their values, and the operands after them; or why
they are refused. -/
def read (plain valued : List Char) :
    List String → Except String (List (Char × String) × List String)
  | [] => .ok ([], [])
  | a :: rest =>
    match a.toList with
    | ['-', '-'] => .ok ([], rest)
    | '-' :: c :: cs => do
      let (found, open?) ← letters plain valued (c :: cs)
      match open? with
      | none =>
        let (more, operands) ← read plain valued rest
        return (found ++ more, operands)
      | some letter =>
        match rest with
        | [] => throw s!"No arg for -{letter} option"
        | value :: others =>
          let (more, operands) ← read plain valued others
          return (found ++ (letter, value) :: more, operands)
    | _ => .ok ([], a :: rest)

end Arguments

/-- Where the reading of options one by one stands: the number of the next argument, counted from
one, and how many characters of the argument before it have been read, if it goes on. -/
structure Cursor where
  next : Nat
  offset : Option Nat
  deriving DecidableEq, Repr

/-- What comes next among arguments: an option with its value, one that is not known, one whose
value is missing, or the end of the options. -/
inductive NextOption where
  | option (letter : Char) (value : String)
  | illegal (letter : Char)
  | incomplete (letter : Char)
  | finished
  deriving DecidableEq, Repr

namespace Cursor

def start : Cursor := ⟨1, none⟩

/-- Whether an option takes a value, which a colon after its letter says; nothing for one that is
not among those that are known. -/
def takesValue? (letter : Char) : List Char → Option Bool
  | [] => none
  | c :: ':' :: rest => if c == letter then some true else takesValue? letter rest
  | c :: rest => if c == letter then some false else takesValue? letter rest

def unread (c : Cursor) (words : List String) : List Char :=
  match c.next, c.offset with
  | n + 2, some offset => ((words.getD n "").toList).drop offset
  | _, _ => []

/-- What comes next, where `letter` and `rest` are what is left of the argument before `next`. -/
def take (known : List Char) (words : List String) (next : Nat) (letter : Char)
    (rest : List Char) : NextOption × Cursor :=
  let size := (words.getD (next - 2) "").length
  let here : Cursor := ⟨next, some (size - rest.length)⟩
  match takesValue? letter known with
  | none => (.illegal letter, here)
  | some false => (.option letter "", here)
  | some true =>
    if !rest.isEmpty then (.option letter (String.ofList rest), ⟨next, none⟩)
    else match words[next - 1]? with
      | some value => (.option letter value, ⟨next + 1, none⟩)
      | none => (.incomplete letter, here)

def step (c : Cursor) (known : List Char) (words : List String) : NextOption × Cursor :=
  let c := if 1 ≤ c.next ∧ c.next ≤ words.length + 1 then c else start
  match c.unread words with
  | letter :: rest => take known words c.next letter rest
  | [] =>
    match (words[c.next - 1]?).map String.toList with
    | some ['-', '-'] => (.finished, ⟨c.next + 1, none⟩)
    | some ('-' :: letter :: rest) => take known words (c.next + 1) letter rest
    | _ => (.finished, ⟨c.next, none⟩)

end Cursor

end Runbook.Shell
