import Runbook.Yaml.Scalar

/-!
Tokens of a YAML text. Indentation is turned into tokens that open and close block collections. A
key without an indicator is known only at the colon after it, so every place where one may begin
is marked, and the marks that turned out to begin a key become tokens at the end.
-/

namespace Runbook.Yaml

/-- A tag as written: its handle, empty for a tag in angle brackets, and its suffix. -/
structure WrittenTag where
  handle : String
  suffix : String
  deriving DecidableEq, Repr

inductive Token where
  | streamEnd
  | version (major minor : List Char)
  | tagDirective (handle tagStart : String)
  | documentStart | documentEnd
  | blockSequence | blockMapping | blockEnd
  | flowSequence | flowSequenceEnd | flowMapping | flowMappingEnd
  | blockEntry | flowEntry | key | value
  | alias (name : String)
  | anchor (name : String)
  | tag (tag : WrittenTag)
  | scalar (text : String) (plain : Bool)
  deriving DecidableEq, Repr

/-- A token, or the place of a key that may begin there. -/
inductive Mark where
  | token (t : Token)
  | place (number : Nat)

/-- A place where a key may begin. In a block mapping's column it is required to be one. -/
structure KeyPlace where
  number : Nat
  required : Bool
  index : Nat
  line : Nat
  column : Nat

/-- What the scanner knows: the marks so far in reverse, the places that turned out to begin a key
and whether they open a mapping, the columns of the open block collections, and for every open flow
collection the place where a key may have begun. -/
structure Scanner where
  cursor : Cursor
  marks : List Mark
  places : Nat
  keys : List (Nat × Bool)
  indent : Int
  indents : List Int
  levels : List (Option KeyPlace)
  keyAllowed : Bool

namespace Scanner

def ofText (s : List Char) : Scanner :=
  { cursor := .ofText s, marks := [], places := 0, keys := [], indent := -1, indents := []
    levels := [none], keyAllowed := true }

def inFlow (s : Scanner) : Bool := s.levels.length > 1

def emit (s : Scanner) (t : Token) : Scanner := { s with marks := .token t :: s.marks }

def moveTo (s : Scanner) (c : Cursor) : Scanner := { s with cursor := c }

def column (s : Scanner) : Int := s.cursor.column

def keyPlace? (s : Scanner) : Option KeyPlace := s.levels.head?.join

def setKeyPlace (s : Scanner) (place : Option KeyPlace) : Scanner :=
  { s with levels := place :: s.levels.tail }

/-- Gives up the innermost place; a required key must not be missing its colon. -/
def dropKeyPlace (s : Scanner) : Option Scanner :=
  if s.keyPlace?.any (·.required) then none else some (s.setKeyPlace none)

def markKeyPlace (s : Scanner) : Option Scanner :=
  if !s.keyAllowed then some s
  else do
    let s ← s.dropKeyPlace
    let place : KeyPlace :=
      { number := s.places, required := !s.inFlow && s.indent == s.column
        index := s.cursor.index, line := s.cursor.line, column := s.cursor.column }
    return { s.setKeyPlace (some place) with
      marks := .place s.places :: s.marks, places := s.places + 1 }

def isStale (s : Scanner) (place : KeyPlace) : Bool :=
  place.line < s.cursor.line || place.index + 1024 < s.cursor.index

/-- Gives up the places that cannot begin a key any more. -/
def dropStale (s : Scanner) : Option Scanner :=
  if s.levels.any (fun place => place.any fun p => s.isStale p && p.required) then none
  else some { s with levels := s.levels.map fun place => place.filter fun p => !s.isStale p }

/-- Opens a block collection in a column right of the current one. -/
def openBlock (s : Scanner) (t : Token) : Scanner :=
  if !s.inFlow && s.indent < s.column then
    { s.emit t with indents := s.indent :: s.indents, indent := s.column }
  else s

def closeBlocks (s : Scanner) (column : Int) : List Int → Scanner
  | [] => { s with indents := [] }
  | outer :: rest =>
    if column < s.indent then closeBlocks { s.emit .blockEnd with indent := outer } column rest
    else { s with indents := outer :: rest }

def closeTo (s : Scanner) (column : Int) : Scanner :=
  if s.inFlow then s else s.closeBlocks column s.indents

/-- Passes blanks, comments and breaks. A tab does not count as a blank where a key may begin in a
block collection. -/
def passGap (s : Scanner) : Nat → Scanner
  | 0 => s
  | fuel + 1 =>
    let c := s.cursor
    let c := if c.index = 0 && c.isAt (Char.ofNat 0xFEFF) then c.skip else c
    let tabs := s.inFlow || !s.keyAllowed
    let c := c.skipWhile fun d => d == ' ' || (tabs && d == '\t')
    let c := if c.isAt '#' then c.skipWhile (fun d => !isBreak d) else c
    if c.satisfies isBreak then
      passGap { s with cursor := c.takeBreak.2, keyAllowed := s.keyAllowed || !s.inFlow } fuel
    else s.moveTo c

/-! ### Directives, anchors and tags -/

def isTagChar (inBrackets : Bool) (c : Char) : Bool :=
  isWordChar c || ";/?:@&=+$.!~*'()".toList.contains c ||
    (inBrackets && (c == ',' || c == '[' || c == ']'))

/-- The bytes of an escaped character, read as the continuation of a UTF-8 sequence. -/
def escapedBytes (c : Cursor) : Nat → Nat → Option (Nat × Cursor)
  | 0, code => some (code, c)
  | more + 1, code => do
    if !c.isAt '%' then none
    else
      let byte ← Json.hexValue? ((c.rest.drop 1).take 2)
      if (c.rest.drop 1).length < 2 || byte / 64 ≠ 2 then none
      else escapedBytes (c.skip 3) more (64 * code + byte % 64)

def escapedTagChar (c : Cursor) : Option (Char × Cursor) := do
  let byte ← Json.hexValue? ((c.rest.drop 1).take 2)
  if (c.rest.drop 1).length < 2 then none
  else
    let (more, code) ←
      if byte < 0x80 then some (0, byte)
      else if byte / 32 = 6 then some (1, byte % 32)
      else if byte / 16 = 14 then some (2, byte % 16)
      else if byte / 8 = 30 then some (3, byte % 8)
      else none
    let (code, c) ← escapedBytes (c.skip 3) more code
    if code.isValidChar then return (Char.ofNat code, c) else none

def tagChars (inBrackets : Bool) (text : List Char) (c : Cursor) :
    Nat → Option (List Char × Cursor)
  | 0 => some (text, c)
  | fuel + 1 =>
    match c.peek? with
    | none => some (text, c)
    | some d =>
      if d == '%' then do
        let (e, c) ← escapedTagChar c
        tagChars inBrackets (text ++ [e]) c fuel
      else if isTagChar inBrackets d then tagChars inBrackets (text ++ [d]) c.skip fuel
      else some (text, c)

def tagText (inBrackets : Bool) (least : Nat) (c : Cursor) : Option (List Char × Cursor) := do
  let (text, c) ← tagChars inBrackets [] c c.rest.length
  if text.length < least then none else return (text, c)

/-- The handle of a tag: `!`, or word characters between two of them. -/
def tagHandle (directive : Bool) (c : Cursor) : Option (List Char × Cursor) :=
  if !c.isAt '!' then none
  else
    let (word, c) := c.skip.takeWhile isWordChar
    let text := '!' :: word
    if c.isAt '!' then some (text ++ ['!'], c.skip)
    else if directive && text ≠ ['!'] then none
    else some (text, c)

/-- A tag: in angle brackets, with a handle, or with the handle `!` alone. -/
def tag? (c : Cursor) : Option (WrittenTag × Cursor) :=
  if c.isAt '<' 1 then do
    let (suffix, c) ← tagText true 1 (c.skip 2)
    if c.isAt '>' then return (⟨"", String.ofList suffix⟩, c.skip) else none
  else do
    let (handle, c) ← tagHandle false c
    if handle.length > 1 && handle.getLast? == some '!' then
      let (suffix, c) ← tagText false 1 c
      return (⟨String.ofList handle, String.ofList suffix⟩, c)
    else
      let (text, c) ← tagText false 0 c
      let suffix := handle.tail ++ text
      if suffix.isEmpty then return (⟨"", "!"⟩, c)
      else return (⟨"!", String.ofList suffix⟩, c)

def versionNumber? (c : Cursor) : Option (List Char × Cursor) :=
  let (digits, c) := c.takeWhile Char.isDigit
  if digits.isEmpty || digits.length > 9 then none else some (digits, c)

def directive? (c : Cursor) : Option (Token × Cursor) := do
  let (name, c) := c.skip.takeWhile isWordChar
  if !c.endsWord then none
  else
    let c := c.skipWhile isGap
    let (t, c) ←
      if name == "YAML".toList then do
        let (major, c) ← versionNumber? c
        if !c.isAt '.' then none
        else
          let (minor, c) ← versionNumber? c.skip
          some (Token.version major minor, c)
      else if name == "TAG".toList then do
        let (handle, c) ← tagHandle true c
        if !c.satisfies isGap then none
        else
          let (start, c) ← tagText true 1 (c.skipWhile isGap)
          if !c.endsWord then none
          else some (Token.tagDirective (String.ofList handle) (String.ofList start), c)
      else none
    let c := c.skipWhile isGap
    let c := if c.isAt '#' then c.skipWhile (fun d => !isBreak d) else c
    if c.endsLine then return (t, c.takeBreak.2) else none

/-- The name of an anchor or an alias, ended by a blank or an indicator. -/
def anchorName? (c : Cursor) : Option (String × Cursor) :=
  let (name, c) := c.skip.takeWhile isWordChar
  if name.isEmpty || !(c.endsWord || c.satisfies "?:,]\x7d%@\x60".toList.contains) then none
  else some (String.ofList name, c)

/-! ### One token -/

def documentMarker (s : Scanner) (t : Token) : Option Scanner := do
  let s ← (s.closeTo (-1)).dropKeyPlace
  return { (s.emit t).moveTo (s.cursor.skip 3) with keyAllowed := false }

def flowStart (s : Scanner) (t : Token) : Option Scanner := do
  let s ← s.markKeyPlace
  return { (s.emit t).moveTo s.cursor.skip with levels := none :: s.levels, keyAllowed := true }

def flowEnd (s : Scanner) (t : Token) : Option Scanner := do
  let s ← s.dropKeyPlace
  let outer := if s.inFlow then s.levels.tail else s.levels
  return { (s.emit t).moveTo s.cursor.skip with levels := outer, keyAllowed := false }

def flowEntry (s : Scanner) : Option Scanner := do
  let s ← s.dropKeyPlace
  return { (s.emit .flowEntry).moveTo s.cursor.skip with keyAllowed := true }

def blockEntry (s : Scanner) : Option Scanner := do
  if !s.inFlow && !s.keyAllowed then none
  else
    let s ← (s.openBlock .blockSequence).dropKeyPlace
    return { (s.emit .blockEntry).moveTo s.cursor.skip with keyAllowed := true }

def keyIndicator (s : Scanner) : Option Scanner := do
  if !s.inFlow && !s.keyAllowed then none
  else
    let s ← (s.openBlock .blockMapping).dropKeyPlace
    return { (s.emit .key).moveTo s.cursor.skip with keyAllowed := !s.inFlow }

/-- A colon: the innermost place, if one is left, begins the key before it. -/
def valueIndicator (s : Scanner) : Option Scanner :=
  match s.keyPlace? with
  | some place =>
    let opens := !s.inFlow && s.indent < place.column
    let s := s.setKeyPlace none
    let s := if opens then
      { s with indents := s.indent :: s.indents, indent := place.column } else s
    let s := { s with keys := (place.number, opens) :: s.keys, keyAllowed := false }
    some ((s.emit .value).moveTo s.cursor.skip)
  | none =>
    if !s.inFlow && !s.keyAllowed then none
    else
      let s := s.openBlock .blockMapping
      some { (s.emit .value).moveTo s.cursor.skip with keyAllowed := !s.inFlow }

def named (s : Scanner) (t : String → Token) : Option Scanner := do
  let s ← s.markKeyPlace
  let (name, c) ← anchorName? s.cursor
  return { (s.emit (t name)).moveTo c with keyAllowed := false }

def tag (s : Scanner) : Option Scanner := do
  let s ← s.markKeyPlace
  let (t, c) ← tag? s.cursor
  if c.endsWord || (s.inFlow && c.isAt ',') then
    return { (s.emit (.tag t)).moveTo c with keyAllowed := false }
  else none

def blockScalar (s : Scanner) (literal : Bool) : Option Scanner := do
  let s ← s.dropKeyPlace
  let (text, c) ← block? literal s.indent s.cursor.skip
  return { (s.emit (.scalar (String.ofList text) false)).moveTo c with keyAllowed := true }

def quotedScalar (s : Scanner) (quote : Char) : Option Scanner := do
  let s ← s.markKeyPlace
  let (text, c) ← quoted? quote s.cursor
  return { (s.emit (.scalar (String.ofList text) false)).moveTo c with keyAllowed := false }

def plainScalar (s : Scanner) : Option Scanner := do
  let s ← s.markKeyPlace
  let (text, broken, c) ← plain? s.inFlow (s.indent + 1).toNat s.cursor
  return { (s.emit (.scalar (String.ofList text) true)).moveTo c with keyAllowed := broken }

def indicators : List Char := "-?:,[]\x7b\x7d#&*!|>'\"%@\x60".toList

/-- Whether a plain scalar may begin here: at any character but an indicator, and at a hyphen, and
outside of flow collections a question mark or a colon, with a word character after it. -/
def startsPlain (s : Scanner) (d : Char) : Bool :=
  !(isGap d || isBreak d || indicators.contains d) ||
    (d == '-' && !s.cursor.satisfies isGap 1) ||
    (!s.inFlow && (d == '?' || d == ':') && !s.cursor.endsWord 1)

/-- Scans one token, or none at the end of the text. -/
def step (s : Scanner) : Option (Option Scanner) := do
  let s ← (s.passGap (s.cursor.rest.length + 1)).dropStale
  let s := s.closeTo s.column
  let c := s.cursor
  match c.peek? with
  | none => return none
  | some d =>
    if c.column = 0 && d == '%' then
      let s ← (s.closeTo (-1)).dropKeyPlace
      let (t, c) ← directive? s.cursor
      return some { (s.emit t).moveTo c with keyAllowed := false }
    else if c.isDocumentMarker '-' then return some (← s.documentMarker .documentStart)
    else if c.isDocumentMarker '.' then return some (← s.documentMarker .documentEnd)
    else if d == '[' then return some (← s.flowStart .flowSequence)
    else if d == '\x7b' then return some (← s.flowStart .flowMapping)
    else if d == ']' then return some (← s.flowEnd .flowSequenceEnd)
    else if d == '\x7d' then return some (← s.flowEnd .flowMappingEnd)
    else if d == ',' then return some (← s.flowEntry)
    else if d == '-' && c.endsWord 1 then return some (← s.blockEntry)
    else if d == '?' && (s.inFlow || c.endsWord 1) then return some (← s.keyIndicator)
    else if d == ':' && (s.inFlow || c.endsWord 1) then return some (← s.valueIndicator)
    else if d == '*' then return some (← s.named .alias)
    else if d == '&' then return some (← s.named .anchor)
    else if d == '!' then return some (← s.tag)
    else if d == '|' && !s.inFlow then return some (← s.blockScalar true)
    else if d == '>' && !s.inFlow then return some (← s.blockScalar false)
    else if d == '\'' || d == '"' then return some (← s.quotedScalar d)
    else if s.startsPlain d then return some (← s.plainScalar)
    else none

/-- The scanner at the end of the text. Every token takes a character, so the length of the text
bounds their number. -/
def run (s : Scanner) : Nat → Option Scanner
  | 0 => none
  | fuel + 1 => do
    match ← s.step with
    | some next => run next fuel
    | none =>
      let s ← (s.passGap (s.cursor.rest.length + 1)).dropStale
      (s.closeTo (-1)).dropKeyPlace

/-- The tokens of the marks in order: a place that begins a key becomes a key token, after the
token that opens its mapping if it opens one. -/
def finish (s : Scanner) : List Token :=
  let keys : Array (Option Bool) :=
    s.keys.foldl (fun found (number, opens) => found.setIfInBounds number (some opens))
      (Array.replicate s.places none)
  s.marks.foldl (fun tokens mark =>
    match mark with
    | .token t => t :: tokens
    | .place number =>
      match keys[number]?.join with
      | some opens => if opens then .blockMapping :: .key :: tokens else .key :: tokens
      | none => tokens) [.streamEnd]

end Scanner

/-- The tokens of a text; a byte order mark at its start is left out. -/
def tokens? (s : List Char) : Option (List Token) :=
  let s := match s with
    | c :: rest => if c.toNat == 0xFEFF then rest else c :: rest
    | [] => []
  if s.all isPrintable then
    ((Scanner.ofText s).run (s.length + 2)).map Scanner.finish
  else none

end Runbook.Yaml
