import Runbook.Word
import Runbook.Text.Blank
import Runbook.Text.Category
import Runbook.Text.Property
import Runbook.Json.Token
import Runbook.Pattern.Syntax

/-!
The written form of patterns, read from their texts. In a spaced pattern blanks and comments may
stand between the parts, also inside escapes and repetitions.
-/

namespace Runbook.Pattern

structure Groups where
  count : Nat
  names : List String

/-! ### Blanks and numbers -/

/-- What is left after the blanks and comments that a spaced pattern may hold. -/
def skipFrom (inComment : Bool) : List Char → List Char
  | [] => []
  | c :: rest =>
    if inComment then skipFrom (c ≠ '\n') rest
    else if Text.isBlank c then skipFrom false rest
    else if c == '#' then skipFrom true rest
    else c :: rest

def skip (spaced : Bool) (s : List Char) : List Char := if spaced then skipFrom false s else s

/-- The characters of a kind at the head of a text, which may stand apart in a spaced pattern;
`fuel` bounds their number. -/
def gather (spaced : Bool) (isPart : Char → Bool) (s : List Char) : Nat → List Char × List Char
  | 0 => ([], s)
  | fuel + 1 =>
    match s with
    | c :: rest =>
      if isPart c then
        let (others, rest) := gather spaced isPart (skip spaced rest) fuel
        (c :: others, rest)
      else ([], s)
    | [] => ([], [])

/-- The characters before a closing brace and the text after it. -/
def gatherBraced? (spaced : Bool) (s : List Char) : Option (List Char × List Char) :=
  match gather spaced (· ≠ '\x7d') (skip spaced s) s.length with
  | (inside, '\x7d' :: rest) => some (inside, rest)
  | _ => none

def number? (spaced : Bool) (s : List Char) : Option Nat × List Char :=
  let s := Text.trimStart s
  let (digits, rest) := gather spaced Char.isDigit s s.length
  let n := digits.foldl (fun n c => 10 * n + (c.toNat - 48)) 0
  let rest := if (rest.head?.map Text.isBlank).getD false then skip spaced (Text.trimStart rest)
    else rest
  (if digits.isEmpty || n ≥ Word.count 32 then none else some n, rest)

/-! ### Escapes -/

def isMeta (c : Char) : Bool := "\\.+*?()|[]\x7b\x7d^$#&-~".toList.contains c

/-- A character that stands for itself after a backslash. -/
def isEscapable (c : Char) : Bool :=
  isMeta c || (c.toNat < 0x80 && !c.isAlphanum && c != '<' && c != '>')

def controlOf? (c : Char) : Option Char :=
  match c with
  | 'a' => some '\x07'
  | 'f' => some '\x0c'
  | 't' => some '\t'
  | 'n' => some '\n'
  | 'r' => some '\r'
  | 'v' => some '\x0b'
  | _ => none

def ofCodePoint? (digits : List Char) : Option Char := do
  let n ← Json.hexValue? digits
  if digits.isEmpty || !n.isValidChar then none else return Char.ofNat n

def fixedDigits? (spaced : Bool) (s : List Char) : Nat → Option (List Char × List Char)
  | 0 => some ([], s)
  | n + 1 =>
    match s with
    | c :: rest => do
      let (others, rest) ← fixedDigits? spaced (skip spaced rest) n
      return (c :: others, rest)
    | [] => none

/-- The character of a code point after `x`, `u` or `U`: a fixed number of digits, or any number of
them in braces. -/
def codePoint? (spaced : Bool) (length : Nat) (s : List Char) : Option (Literal × List Char) :=
  match skip spaced s with
  | '\x7b' :: s => do
    let (digits, rest) ← gatherBraced? spaced s
    return (⟨← ofCodePoint? digits, false⟩, skip spaced rest)
  | s => do
    let (digits, rest) ← fixedDigits? spaced s length
    return (⟨← ofCodePoint? digits, length == 2⟩, rest)

/-- The parts of a name before and after the first place where a word stands. -/
def splitAt? (word : List Char) : List Char → Option (String × String)
  | [] => none
  | c :: rest =>
    if word.isPrefixOf (c :: rest) then
      some ("", String.ofList ((c :: rest).drop word.length))
    else (splitAt? word rest).map fun (before, after) => (String.ofList [c] ++ before, after)

/-- A property name in braces: a kind and its value with `!=`, a colon or `=` between them, or a
name on its own. -/
def propertyName (s : List Char) : PropertyName :=
  match splitAt? ['!', '='] s, splitAt? [':'] s, splitAt? ['='] s with
  | some (kind, value), _, _ => .valued kind value true
  | _, some (kind, value), _ => .valued kind value false
  | _, _, some (kind, value) => .valued kind value false
  | none, none, none => .plain (String.ofList s)

/-- A property after `p` or `P`: one letter, or a name in braces. -/
def property? (spaced : Bool) (s : List Char) : Option (PropertyName × List Char) :=
  match skip spaced s with
  | '\x7b' :: s => (gatherBraced? spaced s).map fun (name, rest) => (propertyName name, rest)
  | '\\' :: _ => none
  | c :: rest => some (.plain (String.ofList [c]), skip spaced rest)
  | [] => none

inductive Escape where
  | literal (l : Literal)
  | named (name : ClassName) (isNegated : Bool)
  | property (name : PropertyName) (isNegated : Bool)
  | place (p : Place)

/-- The place of a word boundary, whose kind may follow in braces. Braces that do not begin with a
letter or a hyphen are those of a repetition. -/
def boundary? (spaced : Bool) (s : List Char) : Option (Place × List Char) :=
  let isPart := fun c : Char => c.isAlpha || c == '-'
  match s with
  | '\x7b' :: rest =>
    match gather spaced isPart (skip spaced rest) rest.length with
    | ([], []) => none
    | ([], _) => some (.wordBoundary, s)
    | (kind, '\x7d' :: rest) =>
      match String.ofList kind with
      | "start" => some (.wordStart, rest)
      | "end" => some (.wordEnd, rest)
      | "start-half" => some (.wordStartHalf, rest)
      | "end-half" => some (.wordEndHalf, rest)
      | _ => none
    | _ => none
  | _ => some (.wordBoundary, s)

def escape? (spaced : Bool) : List Char → Option (Escape × List Char)
  | [] => none
  | c :: s =>
    match c with
    | 'x' => (codePoint? spaced 2 s).map fun (l, r) => (.literal l, r)
    | 'u' => (codePoint? spaced 4 s).map fun (l, r) => (.literal l, r)
    | 'U' => (codePoint? spaced 8 s).map fun (l, r) => (.literal l, r)
    | 'p' => (property? spaced s).map fun (name, r) => (.property name false, r)
    | 'P' => (property? spaced s).map fun (name, r) => (.property name true, r)
    | 'd' => some (.named .digit false, s)
    | 'D' => some (.named .digit true, s)
    | 's' => some (.named .space false, s)
    | 'S' => some (.named .space true, s)
    | 'w' => some (.named .word false, s)
    | 'W' => some (.named .word true, s)
    | 'A' => some (.place .textStart, s)
    | 'z' => some (.place .textEnd, s)
    | 'b' => (boundary? spaced s).map fun (p, r) => (.place p, r)
    | 'B' => some (.place .noWordBoundary, s)
    | '<' => some (.place .wordStart, s)
    | '>' => some (.place .wordEnd, s)
    | _ =>
      match controlOf? c with
      | some d => some (.literal ⟨d, false⟩, s)
      | none => if isEscapable c then some (.literal ⟨c, false⟩, s) else none

/-! ### Sets in brackets -/

def setItem? (spaced : Bool) : List Char → Option (SetItem × List Char)
  | '\\' :: s => do
    match ← escape? spaced s with
    | (.literal l, rest) => return (.literal l, rest)
    | (.named name isNegated, rest) => return (.named name isNegated, rest)
    | (.property name isNegated, rest) => return (.property name isNegated, rest)
    | (.place _, _) => none
  | c :: s => some (.literal ⟨c, false⟩, s)
  | [] => none

/-- The character that follows a hyphen in a set. A comment sign that follows blanks is passed over
with the blanks after it. -/
def peek? (spaced : Bool) (s : List Char) : Option Char :=
  if !spaced then s.head?
  else
    match Text.trimStart s with
    | '#' :: rest => (Text.trimStart rest).head?.or s.head?
    | t => t.head?.or s.head?

/-- An item or a range of a set. A hyphen before another one or before the bracket stands for
itself. -/
def rangeItem? (spaced : Bool) (s : List Char) : Option (SetItem × List Char) := do
  let (first, s) ← setItem? spaced s
  match skip spaced s with
  | [] => none
  | '-' :: rest =>
    if peek? spaced rest == some ']' || peek? spaced rest == some '-' then
      return (first, '-' :: rest)
    else
      let (last, rest) ← setItem? spaced (skip spaced rest)
      match first, last with
      | .literal a, .literal b =>
        if a.char ≤ b.char then return (.range a b, rest) else none
      | _, _ => none
  | s => return (first, s)

def asciiNames : List String :=
  ["alnum", "alpha", "ascii", "blank", "cntrl", "digit", "graph", "lower", "print", "punct",
    "space", "upper", "word", "xdigit"]

def asciiItem? (s : List Char) : Option (SetItem × List Char) :=
  match s with
  | '[' :: ':' :: s =>
    let (isNegated, s) := match s with
      | '^' :: s => (true, s)
      | s => (false, s)
    let name := String.ofList (s.takeWhile (· ≠ ':'))
    match s.dropWhile (· ≠ ':') with
    | ':' :: ']' :: rest =>
      if asciiNames.contains name then some (.ascii name isNegated, rest) else none
    | _ => none
  | _ => none

def setOperator? : List Char → Option (SetOperator × List Char)
  | '&' :: '&' :: s => some (.intersection, s)
  | '-' :: '-' :: s => some (.difference, s)
  | '~' :: '~' :: s => some (.symmetricDifference, s)
  | _ => none

/-- The start of a set after its opening bracket: whether it is negated, and the hyphens or the
closing bracket that stand for themselves there. -/
def setStart (spaced : Bool) (s : List Char) : Bool × List SetItem × List Char :=
  let s := skip spaced s
  let (isNegated, s) := match s with
    | '^' :: s => (true, skip spaced s)
    | s => (false, s)
  let (hyphens, s) := gather spaced (· == '-') s s.length
  match hyphens, s with
  | [], ']' :: rest => (isNegated, [.literal ⟨']', false⟩], skip spaced rest)
  | _, _ => (isNegated, hyphens.map fun c => .literal ⟨c, false⟩, s)

/-- The set of items, which stand on the right of an operator that waits for them. -/
def pendingSet (pending : Option (SetOperator × SetExpr)) (items : List SetItem) : SetExpr :=
  match pending with
  | some (op, left) => .operation op left (.union items.reverse)
  | none => .union items.reverse

/-- The items of a set up to its closing bracket, read so far in reverse. -/
def setItems? (spaced : Bool) (pending : Option (SetOperator × SetExpr)) (items : List SetItem)
    (s : List Char) : Nat → Option (SetExpr × List Char)
  | 0 => none
  | fuel + 1 =>
    match skip spaced s with
    | [] => none
    | ']' :: rest => some (pendingSet pending items, rest)
    | s =>
      match asciiItem? s, setOperator? s with
      | some (item, rest), _ => setItems? spaced pending (item :: items) rest fuel
      | none, some (op, rest) =>
        setItems? spaced (some (op, pendingSet pending items)) [] rest fuel
      | none, none =>
        match s with
        | '[' :: rest => do
          let (isNegated, first, rest) := setStart spaced rest
          let (set, rest) ← setItems? spaced none first.reverse rest fuel
          setItems? spaced pending (.bracketed set isNegated :: items) rest fuel
        | _ => do
          let (item, rest) ← rangeItem? spaced s
          setItems? spaced pending (item :: items) rest fuel

def set? (spaced : Bool) (s : List Char) : Option (Expr × List Char) := do
  let (isNegated, first, rest) := setStart spaced s
  let (set, rest) ← setItems? spaced none first.reverse rest (s.length + 1)
  return (.bracketed set isNegated, rest)

/-! ### Groups and repetitions -/

def isFlag (c : Char) : Bool := "imsUuRx".toList.contains c

/-- Flags up to a colon or a closing parenthesis, each at most once; after a hyphen they are taken
off, and at least one must follow it. -/
def flagChange? (seen : List Char) (on : Bool) :
    List Char → Option (FlagChange × Char × List Char)
  | [] => none
  | c :: s =>
    if c == ':' || c == ')' then
      if seen.head? == some '-' then none else some ([], c, s)
    else if seen.contains c then none
    else if c == '-' then flagChange? ('-' :: seen) false s
    else if isFlag c then do
      let (change, ending, rest) ← flagChange? (c :: seen) on s
      return ((c, on) :: change, ending, rest)
    else none

def isSpacedAfter (spaced : Bool) (change : FlagChange) : Bool :=
  ((change.find? fun (c, _) => c == 'x').map Prod.snd).getD spaced

def letters : Text.CodeSet := (Text.charsOf? Text.properties "alphabetic").getD .empty

def isNameChar (isFirst : Bool) (c : Char) : Bool :=
  c == '_' || letters.has c ||
    (!isFirst && ((Text.category c).startsWith "N" || c == '.' || c == '[' || c == ']'))

def groupName? (s : List Char) : Option (String × List Char) :=
  let name := s.takeWhile (· ≠ '>')
  match name, s.dropWhile (· ≠ '>') with
  | c :: cs, '>' :: rest =>
    if isNameChar true c && cs.all (isNameChar false) then some (String.ofList name, rest) else none
  | _, _ => none

/-- What follows an opening parenthesis: a change of flags on its own, or the start of a group. -/
inductive GroupStart where
  | setting (change : FlagChange)
  | flagged (change : FlagChange)
  | numbered (index : Nat)

def namedStart? (groups : Groups) (s : List Char) : Option (GroupStart × Groups × List Char) := do
  let (name, rest) ← groupName? s
  if groups.names.contains name then none
  else return (.numbered (groups.count + 1), ⟨groups.count + 1, name :: groups.names⟩, rest)

def groupStart? (groups : Groups) (s : List Char) : Option (GroupStart × Groups × List Char) :=
  match s with
  | '?' :: 'P' :: '<' :: rest => namedStart? groups rest
  | '?' :: '<' :: rest => namedStart? groups rest
  | '?' :: rest => do
    let (change, ending, after) ← flagChange? [] true rest
    if ending == ':' then return (.flagged change, groups, after)
    else if rest.head? == some ')' then none
    else return (.setting change, groups, after)
  | rest => some (.numbered (groups.count + 1), { groups with count := groups.count + 1 }, rest)

/-- The least and the greatest number of repetitions after an opening brace, whether as few as
possible are asked for, and the text after it. -/
def counted? (spaced : Bool) (s : List Char) : Option (Nat × Option Nat × Bool × List Char) := do
  let (least, rest) := number? spaced (skip spaced s)
  let (most, rest) ← match rest with
    | ',' :: rest =>
      match skip spaced rest with
      | '\x7d' :: rest => some (none, '\x7d' :: rest)
      | rest => do
        let (most, rest) := number? spaced rest
        some (some (← most), rest)
    | rest => some (some (← least), rest)
  let least ← least
  match rest with
  | '\x7d' :: rest =>
    if (most.map fun most => decide (most < least)).getD false then none
    else match skip spaced rest with
      | '?' :: rest => return (least, most, true, rest)
      | rest => return (least, most, false, rest)
  | _ => none

/-- The repetition at the head of a text; nothing if there is none. -/
def repetition? (spaced : Bool) (s : List Char) :
    Option (Option (Nat × Option Nat × Bool × List Char)) :=
  match s with
  | '*' :: rest => some (some (lazily 0 none rest))
  | '+' :: rest => some (some (lazily 1 none rest))
  | '?' :: rest => some (some (lazily 0 (some 1) rest))
  | '\x7b' :: rest => (counted? spaced rest).map some
  | _ => some none
where
  lazily (least : Nat) (most : Option Nat) :
      List Char → Nat × Option Nat × Bool × List Char
    | '?' :: rest => (least, most, true, rest)
    | rest => (least, most, false, rest)

def simpleItem? (spaced : Bool) : List Char → Option (Expr × List Char)
  | [] => none
  | '[' :: rest => set? spaced rest
  | '.' :: rest => some (.dot, rest)
  | '^' :: rest => some (.place .lineStart, rest)
  | '$' :: rest => some (.place .lineEnd, rest)
  | '\\' :: rest => do
    match ← escape? spaced rest with
    | (.literal l, rest) => return (.literal l, rest)
    | (.named name isNegated, rest) => return (.named name isNegated, rest)
    | (.property name isNegated, rest) => return (.property name isNegated, rest)
    | (.place p, rest) => return (.place p, rest)
  | c :: rest => some (.literal ⟨c, false⟩, rest)

/-- The inside of a group, or the whole text, up to a closing parenthesis or the end. The
alternatives and the items of the last one are read so far in reverse. -/
def body? (spaced : Bool) (groups : Groups) (before items : List Expr) (s : List Char) :
    Nat → Option (Expr × Groups × List Char)
  | 0 => none
  | fuel + 1 =>
    let finished := Expr.alternativesOf (.inSequence items.reverse :: before).reverse
    match skip spaced s with
    | [] => some (finished, groups, [])
    | ')' :: rest => some (finished, groups, ')' :: rest)
    | '|' :: rest => body? spaced groups (.inSequence items.reverse :: before) [] rest fuel
    | '(' :: rest => do
      match ← groupStart? groups (skip spaced rest) with
      | (.setting change, groups, rest) =>
        body? (isSpacedAfter spaced change) groups before (.flags change :: items) rest fuel
      | (.flagged change, groups, rest) =>
        match ← body? (isSpacedAfter spaced change) groups [] [] rest fuel with
        | (e, groups, ')' :: rest) =>
          body? spaced groups before (.flagged change e :: items) rest fuel
        | _ => none
      | (.numbered index, groups, rest) =>
        match ← body? spaced groups [] [] rest fuel with
        | (e, groups, ')' :: rest) => body? spaced groups before (.group index e :: items) rest fuel
        | _ => none
    | s => do
      match ← repetition? spaced s with
      | some (least, most, isLazy, rest) =>
        match items with
        | e :: items =>
          if e.isRepeatable then
            body? spaced groups before (.repeated e least most isLazy :: items) rest fuel
          else none
        | [] => none
      | none =>
        let (e, rest) ← simpleItem? spaced s
        body? spaced groups before (e :: items) rest fuel

/-- The written form of a pattern, which may not be nested too deep. -/
def parse? (s : String) : Option Expr := do
  match ← body? false ⟨0, []⟩ [] [] s.toList (2 * s.length + 2) with
  | (e, _, []) => if e.depth ≤ greatestDepth then return e else none
  | _ => none

end Runbook.Pattern
