/-!
A place in a YAML text: what is left to read, and the line and the column of the next character.
-/

namespace Runbook.Yaml

/-- A character that ends a line: line feed, carriage return, next line, and the line and
paragraph separators. -/
def isBreak (c : Char) : Bool :=
  c == '\n' || c == '\r' || c.toNat == 0x85 || c.toNat == 0x2028 || c.toNat == 0x2029

def isGap (c : Char) : Bool := c == ' ' || c == '\t'

/-- A letter, a digit, a hyphen or an underscore of ASCII. -/
def isWordChar (c : Char) : Bool := c.isAlphanum || c == '_' || c == '-'

def isPrintable (c : Char) : Bool :=
  let n := c.toNat
  n == 9 || n == 10 || n == 13 || (0x20 ≤ n && n ≤ 0x7E) || n == 0x85 ||
    (0xA0 ≤ n && n ≤ 0xD7FF) || (0xE000 ≤ n && n ≤ 0xFFFD) || 0x10000 ≤ n

structure Cursor where
  rest : List Char
  index : Nat
  line : Nat
  column : Nat

namespace Cursor

def ofText (s : List Char) : Cursor := ⟨s, 0, 0, 0⟩

def peek? (c : Cursor) (n : Nat := 0) : Option Char := c.rest[n]?

def isAt (c : Cursor) (d : Char) (n : Nat := 0) : Bool := c.peek? n == some d

def satisfies (c : Cursor) (p : Char → Bool) (n : Nat := 0) : Bool := (c.peek? n).any p

/-- The character at a distance has the property, or the text ends before it. -/
def endsAt (c : Cursor) (p : Char → Bool) (n : Nat := 0) : Bool := (c.peek? n).all p

def endsWord (c : Cursor) (n : Nat := 0) : Bool := c.endsAt (fun d => isGap d || isBreak d) n

def endsLine (c : Cursor) (n : Nat := 0) : Bool := c.endsAt isBreak n

def skip (c : Cursor) (n : Nat := 1) : Cursor :=
  ⟨c.rest.drop n, c.index + n, c.line, c.column + n⟩

/-- The number of characters with the property that come next. -/
def run (c : Cursor) (p : Char → Bool) : Nat := (c.rest.takeWhile p).length

def skipWhile (c : Cursor) (p : Char → Bool) : Cursor := c.skip (c.run p)

/-- The characters with the property that come next, and the place after them. -/
def takeWhile (c : Cursor) (p : Char → Bool) : List Char × Cursor :=
  (c.rest.takeWhile p, c.skipWhile p)

/-- Moves on over a line break. The text of a break is a line feed, but a line or a paragraph
separator stands for itself. -/
def takeBreak (c : Cursor) : List Char × Cursor :=
  match c.rest with
  | '\r' :: '\n' :: rest => (['\n'], ⟨rest, c.index + 2, c.line + 1, 0⟩)
  | d :: rest =>
    if isBreak d then
      (if d.toNat == 0x2028 || d.toNat == 0x2029 then [d] else ['\n'],
        ⟨rest, c.index + 1, c.line + 1, 0⟩)
    else ([], c)
  | [] => ([], c)

/-- A marker of a document, three equal characters at the start of a line and nothing more. -/
def isDocumentMarker (c : Cursor) (d : Char) : Bool :=
  c.column == 0 && c.isAt d 0 && c.isAt d 1 && c.isAt d 2 && c.endsWord 3

end Cursor

end Runbook.Yaml
