import Runbook.Yaml.Cursor
import Runbook.Json.Token

/-!
Scalars of a YAML text: plain, in single or double quotes, or a block of lines. Line breaks inside
a scalar are folded: one break becomes a space, and of several the first one is dropped.
-/

namespace Runbook.Yaml

/-- The blanks and breaks between two words of a scalar: blanks alone, or the first break and the
breaks after it. -/
inductive Spacing where
  | blanks (read : List Char)
  | breaks (first : List Char) (more : List Char)

namespace Spacing

def isEmpty : Spacing → Bool
  | .blanks read => read.isEmpty
  | .breaks .. => false

def isBroken : Spacing → Bool
  | .blanks _ => false
  | .breaks .. => true

def text : Spacing → List Char
  | .blanks read => read
  | .breaks first more =>
    if first.head? == some '\n' then (if more.isEmpty then [' '] else more) else first ++ more

/-- Reads on over blanks and breaks. Blanks after a break vanish; in block context a tab there
must not stand in the indentation. `fuel` bounds the characters read. -/
def read (tabLimit : Option Nat) (s : Spacing) (c : Cursor) : Nat → Option (Spacing × Cursor)
  | 0 => some (s, c)
  | fuel + 1 =>
    match c.peek? with
    | none => some (s, c)
    | some d =>
      if isGap d then
        match s with
        | .blanks text => read tabLimit (.blanks (text ++ [d])) c.skip fuel
        | .breaks .. =>
          if d == '\t' && tabLimit.any (c.column < ·) then none
          else read tabLimit s c.skip fuel
      else if isBreak d then
        let (ended, next) := c.takeBreak
        match s with
        | .blanks _ => read tabLimit (.breaks ended []) next fuel
        | .breaks first more => read tabLimit (.breaks first (more ++ ended)) next fuel
      else some (s, c)

end Spacing

/-! ### Quoted scalars -/

/-- The character that a letter stands for after a backslash. -/
def escapedChar? (c : Char) : Option Char :=
  match c with
  | '0' => some '\x00'
  | 'a' => some '\x07'
  | 'b' => some '\x08'
  | 't' => some '\t'
  | '\t' => some '\t'
  | 'n' => some '\n'
  | 'v' => some '\x0b'
  | 'f' => some '\x0c'
  | 'r' => some '\r'
  | 'e' => some '\x1b'
  | ' ' => some ' '
  | '"' => some '"'
  | '/' => some '/'
  | '\\' => some '\\'
  | 'N' => some (Char.ofNat 0x85)
  | '_' => some (Char.ofNat 0xA0)
  | 'L' => some (Char.ofNat 0x2028)
  | 'P' => some (Char.ofNat 0x2029)
  | _ => none

/-- The number of hexadecimal digits after the letter of a code point. -/
def codeLength? (c : Char) : Option Nat :=
  match c with
  | 'x' => some 2
  | 'u' => some 4
  | 'U' => some 8
  | _ => none

def escapeSequence? (c : Cursor) : Option (Char × Cursor) := do
  let letter ← c.peek? 1
  match escapedChar? letter with
  | some d => return (d, c.skip 2)
  | none =>
    let length ← codeLength? letter
    let digits := (c.rest.drop 2).take length
    let code ← if digits.length = length then Json.hexValue? digits else none
    if code.isValidChar then return (Char.ofNat code, c.skip (2 + length)) else none

/-- The characters of a quoted scalar up to a blank, a break or the closing quote, in reverse. An
escaped break starts a spacing of its own. -/
def quotedWord (quote : Char) (text : List Char) (c : Cursor) :
    Nat → Option (List Char × Option Spacing × Cursor)
  | 0 => none
  | fuel + 1 =>
    match c.peek? with
    | none => some (text, none, c)
    | some d =>
      if isGap d || isBreak d then some (text, none, c)
      else if quote == '\'' && d == '\'' && c.isAt '\'' 1 then
        quotedWord quote ('\'' :: text) (c.skip 2) fuel
      else if d == quote then some (text, none, c)
      else if quote == '"' && d == '\\' then
        if c.satisfies isBreak 1 then some (text, some (.breaks [] []), c.skip.takeBreak.2)
        else do
          let (e, next) ← escapeSequence? c
          quotedWord quote (e :: text) next fuel
      else quotedWord quote (d :: text) c.skip fuel

/-- The rest of a quoted scalar, and the place after its closing quote. -/
def quotedFrom (quote : Char) (text : List Char) (c : Cursor) : Nat → Option (List Char × Cursor)
  | 0 => none
  | fuel + 1 =>
    if c.isDocumentMarker '-' || c.isDocumentMarker '.' || c.rest.isEmpty then none
    else do
      let (word, escaped, c) ← quotedWord quote [] c (c.rest.length + 1)
      if c.isAt quote then return (text ++ word.reverse, c.skip)
      else
        let (spacing, c) ← Spacing.read none (escaped.getD (.blanks [])) c c.rest.length
        quotedFrom quote (text ++ word.reverse ++ spacing.text) c fuel

def quoted? (quote : Char) (c : Cursor) : Option (List Char × Cursor) :=
  quotedFrom quote [] c.skip (c.rest.length + 1)

/-! ### Plain scalars -/

/-- A bracket, a brace or a comma, which structures a flow collection. -/
def isFlowIndicator (c : Char) : Bool :=
  c == ',' || c == '[' || c == ']' || c == '\x7b' || c == '\x7d'

/-- The characters of a plain scalar up to a blank, a break or an indicator that ends it, in
reverse. -/
def plainWord (inFlow : Bool) (text : List Char) (c : Cursor) : Nat → Option (List Char × Cursor)
  | 0 => some (text, c)
  | fuel + 1 =>
    match c.peek? with
    | none => some (text, c)
    | some d =>
      if isGap d || isBreak d then some (text, c)
      else if inFlow && d == ':' && c.satisfies (fun e => isFlowIndicator e || e == '?') 1 then none
      else if (d == ':' && c.endsWord 1) || (inFlow && isFlowIndicator d) then some (text, c)
      else plainWord inFlow (d :: text) c.skip fuel

/-- The rest of a plain scalar after a spacing, which stays outside if no word follows it, whether
a break was read last, and the place after all. -/
def plainFrom (inFlow : Bool) (indent : Nat) (text : List Char) (spacing : Spacing) (c : Cursor) :
    Nat → Option (List Char × Bool × Cursor)
  | 0 => none
  | fuel + 1 =>
    if c.isDocumentMarker '-' || c.isDocumentMarker '.' || c.isAt '#' then
      some (text, spacing.isBroken, c)
    else do
      let (word, next) ← plainWord inFlow [] c c.rest.length
      let (text, spacing) :=
        if word.isEmpty then (text, spacing) else (text ++ spacing.text ++ word.reverse, .blanks [])
      if next.satisfies (fun d => isGap d || isBreak d) then
        let (spacing, c) ← Spacing.read (some indent) spacing next next.rest.length
        if !inFlow && c.column < indent then return (text, spacing.isBroken, c)
        else plainFrom inFlow indent text spacing c fuel
      else return (text, spacing.isBroken, next)

/-- A plain scalar, whether a line break follows it, and the place after both. -/
def plain? (inFlow : Bool) (indent : Nat) (c : Cursor) : Option (List Char × Bool × Cursor) :=
  plainFrom inFlow indent [] (.blanks []) c (c.rest.length + 1)

/-! ### Block scalars -/

/-- What becomes of the line breaks at the end of a block: all dropped, one kept, all kept. -/
inductive Chomping where
  | strip | clip | keep

structure BlockHeader where
  chomping : Chomping
  increment : Option Nat

def chomping? (c : Cursor) : Option Chomping :=
  if c.isAt '+' then some .keep else if c.isAt '-' then some .strip else none

/-- The indentation of a block in columns more than its parent's; zero is refused. -/
def increment? (c : Cursor) : Option (Option Nat × Cursor) :=
  match c.peek? with
  | some d =>
    if d == '0' then none
    else if d.isDigit then some (some (d.toNat - 48), c.skip)
    else some (none, c)
  | none => some (none, c)

def blockHeader? (c : Cursor) : Option (BlockHeader × Cursor) :=
  match chomping? c with
  | some chomping => do
    let (increment, c) ← increment? c.skip
    return (⟨chomping, increment⟩, c)
  | none => do
    let (increment, c) ← increment? c
    match increment, chomping? c with
    | some _, some chomping => return (⟨chomping, increment⟩, c.skip)
    | _, _ => return (⟨.clip, increment⟩, c)

/-- The empty lines before a line of a block, and the widest indentation among them. An unknown
indentation (zero) is any number of spaces; a tab must not stand in the indentation. -/
def blockBreaks (indent widest : Nat) (breaks : List Char) (c : Cursor) :
    Nat → Option (List Char × Nat × Cursor)
  | 0 => some (breaks, widest, c)
  | fuel + 1 =>
    let spaces := c.run (· == ' ')
    let c := c.skip (if indent = 0 then spaces else min spaces (indent - c.column))
    let widest := max widest c.column
    if (indent = 0 || c.column < indent) && c.isAt '\t' then none
    else if c.satisfies isBreak then
      let (ended, next) := c.takeBreak
      blockBreaks indent widest (breaks ++ ended) next fuel
    else some (breaks, widest, c)

/-- The lines of a block. `ended` is the break after the last line, `breaks` the empty lines after
it, `indented` whether that line starts with a blank, so that its break is not folded. -/
def blockLines (literal : Bool) (indent : Nat) (text ended breaks : List Char) (indented : Bool)
    (c : Cursor) : Nat → Option (List Char × List Char × List Char × Cursor)
  | 0 => none
  | fuel + 1 =>
    if c.column = indent && !c.rest.isEmpty then do
      let blank := c.satisfies isGap
      let folded := !literal && ended.head? == some '\n' && !indented && !blank
      let joint := if folded then (if breaks.isEmpty then [' '] else breaks) else ended ++ breaks
      let (line, c) := c.takeWhile (fun d => !isBreak d)
      let (ended, c) := c.takeBreak
      let (breaks, _, c) ← blockBreaks indent 0 [] c (c.rest.length + 1)
      blockLines literal indent (text ++ joint ++ line) ended breaks blank c fuel
    else some (text, ended, breaks, c)

/-- A block scalar after its indicator, inside a collection of the given indentation. -/
def block? (literal : Bool) (parent : Int) (c : Cursor) : Option (List Char × Cursor) := do
  let (header, c) ← blockHeader? c
  let c := c.skipWhile isGap
  let c := if c.isAt '#' then c.skipWhile (fun d => !isBreak d) else c
  if !c.endsLine then none
  else
    let c := c.takeBreak.2
    let known := match header.increment with
      | some n => if 0 ≤ parent then (parent + n).toNat else n
      | none => 0
    let (breaks, widest, c) ← blockBreaks known 0 [] c (c.rest.length + 1)
    let indent := if known = 0 then max widest (max (parent + 1).toNat 1) else known
    let (text, ended, breaks, c) ←
      blockLines literal indent [] [] breaks false c (c.rest.length + 1)
    return match header.chomping with
      | .strip => (text, c)
      | .clip => (text ++ ended, c)
      | .keep => (text ++ ended ++ breaks, c)

end Runbook.Yaml
