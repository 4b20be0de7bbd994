import Runbook.Yaml.Token
import Runbook.Decimal.Reading

/-!
Nodes of a YAML text: scalars and collections with their tags and anchors, and aliases. A block
collection runs up to its end token, and a sequence that stands for a mapping's value may lack one.
-/

namespace Runbook.Yaml

structure Properties (α : Type) where
  anchor : Option α
  tag : Option String
  deriving DecidableEq, Repr

/-- A node; its anchors and aliases are names in the text, and numbers once they are linked. -/
inductive Node (α : Type) where
  | alias (name : α)
  | scalar (properties : Properties α) (text : String) (plain : Bool)
  | sequence (properties : Properties α) (items : List (Node α))
  | mapping (properties : Properties α) (entries : List (Node α × Node α))
  deriving Inhabited

namespace Node

def empty : Node String := .scalar ⟨none, none⟩ "" true

/-- The prefixes of tag handles: those declared in the document, and the two standard ones. -/
abbrev Handles := List (String × String)

def standardHandles : Handles := [("!", "!"), ("!!", "tag:yaml.org,2002:")]

/-- The whole of a tag; its handle must be known. -/
def wholeTag? (handles : Handles) (t : WrittenTag) : Option String :=
  if t.handle.isEmpty then some t.suffix
  else (handles.lookup t.handle).map (· ++ t.suffix)

def properties? (handles : Handles) : List Token → Option (Properties String × Bool × List Token)
  | .anchor a :: .tag t :: rest | .tag t :: .anchor a :: rest => do
    return (⟨some a, some (← wholeTag? handles t)⟩, true, rest)
  | .anchor a :: rest => some (⟨some a, none⟩, true, rest)
  | .tag t :: rest => do return (⟨none, some (← wholeTag? handles t)⟩, true, rest)
  | rest => some (⟨none, none⟩, false, rest)

/-- A written scalar's tag `!` says nothing about its value; that of a scalar left out does. -/
def scalarWith (p : Properties String) (text : String) (plain : Bool) : Node String :=
  .scalar { p with tag := p.tag.filter (· ≠ "!") } text plain

/-- Where a node stands: in a flow collection, in a block, or in a block mapping, where a sequence
may stand in the mapping's own column. -/
inductive Place where
  | flow | block | blockMapping
  deriving DecidableEq

/-- Whether a block item, key or value is left empty before this token. -/
def endsItem (t : Token) : Bool := t == .blockEntry || t == .blockEnd

def endsPart (t : Token) : Bool := t == .key || t == .value || t == .blockEnd

mutual

def node (handles : Handles) (place : Place) (tokens : List Token) :
    Nat → Option (Node String × List Token)
  | 0 => none
  | fuel + 1 =>
    match tokens with
    | .alias name :: rest => some (.alias name, rest)
    | _ => do
      let (p, found, tokens) ← properties? handles tokens
      match tokens with
      | .blockEntry :: _ =>
        if place = .blockMapping then
          let (items, rest) ← plainSequence handles tokens fuel
          return (.sequence p items, rest)
        else if found then return (.scalar p "" true, tokens)
        else none
      | .scalar text plain :: rest => return (scalarWith p text plain, rest)
      | .flowSequence :: rest =>
        let (items, rest) ← flowItems handles true rest fuel
        return (.sequence p items, rest)
      | .flowMapping :: rest =>
        let (entries, rest) ← flowEntries handles true rest fuel
        return (.mapping p entries, rest)
      | .blockSequence :: rest =>
        if place = .flow then
          if found then return (.scalar p "" true, tokens) else none
        else
          let (items, rest) ← blockItems handles rest fuel
          return (.sequence p items, rest)
      | .blockMapping :: rest =>
        if place = .flow then
          if found then return (.scalar p "" true, tokens) else none
        else
          let (entries, rest) ← blockEntries handles rest fuel
          return (.mapping p entries, rest)
      | _ => if found then return (.scalar p "" true, tokens) else none

def blockItems (handles : Handles) (tokens : List Token) :
    Nat → Option (List (Node String) × List Token)
  | 0 => none
  | fuel + 1 =>
    match tokens with
    | .blockEnd :: rest => some ([], rest)
    | .blockEntry :: rest => do
      let (item, rest) ←
        if rest.head?.any endsItem then some (empty, rest) else node handles .block rest fuel
      let (items, rest) ← blockItems handles rest fuel
      return (item :: items, rest)
    | _ => none

def plainSequence (handles : Handles) (tokens : List Token) :
    Nat → Option (List (Node String) × List Token)
  | 0 => none
  | fuel + 1 =>
    match tokens with
    | .blockEntry :: rest => do
      let (item, rest) ←
        if rest.head?.any fun t => t == .blockEntry || endsPart t then some (empty, rest)
        else node handles .block rest fuel
      let (items, rest) ← plainSequence handles rest fuel
      return (item :: items, rest)
    | _ => some ([], tokens)

/-- The entries of a block mapping and its end. A value may lack its key, and a key its value. -/
def blockEntries (handles : Handles) (tokens : List Token) :
    Nat → Option (List (Node String × Node String) × List Token)
  | 0 => none
  | fuel + 1 =>
    match tokens with
    | .blockEnd :: rest => some ([], rest)
    | .key :: rest => do
      let (key, rest) ←
        if rest.head?.any endsPart then some (empty, rest) else node handles .blockMapping rest fuel
      let (value, rest) ← blockValue handles rest fuel
      let (entries, rest) ← blockEntries handles rest fuel
      return ((key, value) :: entries, rest)
    | _ => none

def blockValue (handles : Handles) (tokens : List Token) : Nat → Option (Node String × List Token)
  | 0 => none
  | fuel + 1 =>
    match tokens with
    | .value :: rest =>
      if rest.head?.any endsPart then some (empty, rest) else node handles .blockMapping rest fuel
    | _ => some (empty, tokens)

/-- The items of a flow sequence and its end. An item with a key is a mapping of one entry. -/
def flowItems (handles : Handles) (first : Bool) (tokens : List Token) :
    Nat → Option (List (Node String) × List Token)
  | 0 => none
  | fuel + 1 =>
    match tokens with
    | .flowSequenceEnd :: rest => some ([], rest)
    | _ => do
      let tokens ← if first then some tokens else
        match tokens with
        | .flowEntry :: rest => some rest
        | _ => none
      match tokens with
      | .flowSequenceEnd :: rest => return ([], rest)
      | .key :: rest =>
        let (entry, rest) ← flowPair handles rest fuel
        let (items, rest) ← flowItems handles false rest fuel
        return (.mapping ⟨none, none⟩ [entry] :: items, rest)
      | _ =>
        let (item, rest) ← node handles .flow tokens fuel
        let (items, rest) ← flowItems handles false rest fuel
        return (item :: items, rest)

/-- The key and the value of an item with a key. Without a key the next token is passed over. -/
def flowPair (handles : Handles) (tokens : List Token) :
    Nat → Option ((Node String × Node String) × List Token)
  | 0 => none
  | fuel + 1 => do
    let ends := fun t => t == Token.flowEntry || t == .flowSequenceEnd
    let (key, tokens) ←
      if tokens.head?.any fun t => t == .value || ends t then some (empty, tokens.tail)
      else node handles .flow tokens fuel
    match tokens with
    | .value :: rest =>
      let (value, rest) ←
        if rest.head?.any ends then some (empty, rest) else node handles .flow rest fuel
      return ((key, value), rest)
    | _ => return ((key, empty), tokens)

/-- The entries of a flow mapping and its end. A key may lack its value. -/
def flowEntries (handles : Handles) (first : Bool) (tokens : List Token) :
    Nat → Option (List (Node String × Node String) × List Token)
  | 0 => none
  | fuel + 1 =>
    match tokens with
    | .flowMappingEnd :: rest => some ([], rest)
    | _ => do
      let tokens ← if first then some tokens else
        match tokens with
        | .flowEntry :: rest => some rest
        | _ => none
      let ends := fun t => t == Token.flowEntry || t == .flowMappingEnd
      match tokens with
      | .flowMappingEnd :: rest => return ([], rest)
      | .key :: rest =>
        let (key, rest) ←
          if rest.head?.any fun t => t == .value || ends t then some (empty, rest)
          else node handles .flow rest fuel
        let (value, rest) ← match rest with
          | .value :: rest =>
            if rest.head?.any ends then some (empty, rest) else node handles .flow rest fuel
          | _ => some (empty, rest)
        let (entries, rest) ← flowEntries handles false rest fuel
        return ((key, value) :: entries, rest)
      | _ =>
        let (key, rest) ← node handles .flow tokens fuel
        let (entries, rest) ← flowEntries handles false rest fuel
        return ((key, empty) :: entries, rest)

end

/-! ### Documents -/

def isDirective : Token → Bool
  | .version .. => true
  | .tagDirective .. => true
  | _ => false

/-- The handles that directives declare; a version must be known, and nothing is declared twice. -/
def declared? : List Token → Option Handles
  | [] => some []
  | .version major minor :: rest =>
    if Numeral.digitsValue 0 major = 1 ∧
        (Numeral.digitsValue 0 minor = 1 ∨ Numeral.digitsValue 0 minor = 2) ∧
        !rest.any (fun t => t matches .version ..) then declared? rest
    else none
  | .tagDirective handle start :: rest => do
    let others ← declared? rest
    if (others.lookup handle).isSome then none else return (handle, start) :: others
  | _ :: _ => none

def endsDocument (t : Token) : Bool :=
  isDirective t || t == .documentStart || t == .documentEnd || t == .streamEnd

/-- The node of a document at the head of the tokens, and the tokens after it. Without a start
marker a document has no directives; only the first one may lack the marker. -/
def document? (tokens : List Token) : Option (Node String × List Token) := do
  let handles ← declared? (tokens.takeWhile isDirective)
  match tokens.dropWhile isDirective with
  | .documentStart :: rest =>
    if rest.head?.any endsDocument then return (empty, rest)
    else node (handles ++ standardHandles) .block rest (3 * tokens.length + 3)
  | _ =>
    if tokens.head?.any isDirective then none
    else node standardHandles .block tokens (3 * tokens.length + 3)

/-- The node of the only document of a text, and none if the text is empty. -/
def ofTokens? (tokens : List Token) : Option (Option (Node String)) :=
  if tokens = [.streamEnd] then some none
  else do
    let (node, rest) ← document? tokens
    if rest.dropWhile (· == .documentEnd) = [.streamEnd] then return some node else none

end Node

/-- The node that a YAML text writes, and none if the text is empty. -/
def nodeOf? (s : List Char) : Option (Option (Node String)) := (tokens? s).bind Node.ofTokens?

end Runbook.Yaml
