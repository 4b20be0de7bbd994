import Runbook.Shell.Lexicon
import Runbook.Shell.Script

/-!
Scripts read from their texts. `fuel` bounds the nesting and the length of what is read.
-/

namespace Runbook.Shell

/-- What is left of a script, and the line that it starts on. -/
structure Source where
  rest : List Char
  line : Nat

/-- Why a text is no script, and the line on which that shows. -/
structure ScriptFault where
  message : String
  line : Nat
  deriving DecidableEq, Repr

abbrev Reading (α : Type) := StateT Source (Except ScriptFault) α

namespace Reading

open Lexicon

/-! ### Characters -/

def peek? : Reading (Option Char) := do return (← get).rest.head?

def ahead : Reading (List Char) := do return (← get).rest

def skip (n : Nat) : Reading Unit := modify fun s =>
  ⟨s.rest.drop n, s.line + (s.rest.take n).count '\n'⟩

def fault {α : Type} (message : String) : Reading α := do
  throw ⟨"Syntax error: " ++ message, (← get).line⟩

def takeWhile (p : Char → Bool) : Reading String := do
  let taken := (← ahead).takeWhile p
  skip taken.length
  return String.ofList taken

def startsWith (s : String) : Reading Bool := do return s.toList.isPrefixOf (← ahead)

/-- Takes a text if it comes next. -/
def accept (s : String) : Reading Bool := do
  if ← startsWith s then
    skip s.length
    return true
  else return false

/-! ### Blanks -/

def skipBlanks : Nat → Reading Unit
  | 0 => return ()
  | fuel + 1 => do
    match ← ahead with
    | '\\' :: '\n' :: _ => do
      skip 2
      skipBlanks fuel
    | '#' :: _ => do
      let _ ← takeWhile (· ≠ '\n')
    | c :: _ =>
      if isBlank c then do
        skip 1
        skipBlanks fuel
    | [] => return ()

def skipLines : Nat → Reading Unit
  | 0 => return ()
  | fuel + 1 => do
    skipBlanks fuel
    if ← accept "\n" then skipLines fuel

/-! ### What comes next -/

/-- The word that comes next, if nothing in it is quoted or expanded. -/
def plainWord : Reading String := do
  let isPlain := fun c => !endsWord c && c != '\'' && c != '"' && c != '\\' && c != '$' &&
    c != backquote
  let taken := (← ahead).takeWhile isPlain
  match (← ahead)[taken.length]? with
  | none => return String.ofList taken
  | some c => return if endsWord c then String.ofList taken else ""

def nextName : Reading String := do
  match ← ahead with
  | [] => return "end of file"
  | '\n' :: _ => return "newline"
  | '&' :: '&' :: _ => return "\"&&\""
  | '|' :: '|' :: _ => return "\"||\""
  | ';' :: ';' :: _ => return "\";;\""
  | c :: _ =>
    if c == '<' || c == '>' then return "redirection"
    else if isOperatorChar c then return s!"\"{c}\""
    else
      let word ← plainWord
      return if keywords.contains word then s!"\"{word}\"" else "word"

def unexpected {α : Type} : Reading α := do fault (s!"{← nextName} unexpected")

/-- The fault where a closing parenthesis should stand; no word of the language is known there. -/
def unclosed {α : Type} : Reading α := do
  let name ← nextName
  let shown := if keywords.contains ((name.drop 1).dropEnd 1).toString then "word" else name
  fault (shown ++ " unexpected (expecting \")\")")

/-- The commands of a part of the language that is not empty, unless the text ends there. -/
def nonempty (commands : Script) : Reading Script := do
  if commands.isEmpty && !(← ahead).isEmpty then unexpected else return commands

def keyword (word : String) : Reading Unit := do
  if (← plainWord) = word then skip word.length
  else fault (s!"{← nextName} unexpected (expecting \"{word}\")")

/-! ### Quoted texts -/

/-- Takes everything up to a backquote; a backslash before a backquote, a dollar sign or a backslash
is left out. -/
def backquoted : Nat → Reading (List Char)
  | 0 => fault "EOF in backquote substitution"
  | fuel + 1 => do
    match ← ahead with
    | [] => fault "EOF in backquote substitution"
    | '\\' :: c :: _ => do
      skip 2
      let rest ← backquoted fuel
      return if c == backquote || c == '$' || c == '\\' then c :: rest else '\\' :: c :: rest
    | c :: _ => do
      skip 1
      if c == backquote then return [] else return c :: (← backquoted fuel)

/-- Takes everything up to the two parentheses that close an arithmetic expression. -/
def expressionText (depth : Nat) : Nat → Reading (List Char)
  | 0 => fault "Missing '))'"
  | fuel + 1 => do
    match ← ahead with
    | [] => fault "Missing '))'"
    | ')' :: ')' :: _ =>
      if depth = 0 then do
        skip 2
        return []
      else do
        skip 1
        return ')' :: (← expressionText (depth - 1) fuel)
    | c :: _ => do
      skip 1
      let depth := if c == '(' then depth + 1 else if c == ')' then depth - 1 else depth
      return c :: (← expressionText depth fuel)

def within {α : Type} (text : List Char) (r : Reading α) : Reading α := do
  let outer ← get
  set (Source.mk text outer.line)
  let result ← r
  set outer
  return result

/-- The name of a parameter: letters, a number, or a mark. -/
def parameterName : Reading String := do
  match ← ahead with
  | c :: _ =>
    if isNameStart c then takeWhile isNameChar
    else if c.isDigit then takeWhile Char.isDigit
    else if isSpecial c then do
      skip 1
      return String.singleton c
    else return ""
  | [] => return ""

def substituteKind? : Char → Option Substitute
  | '-' => some .fallback
  | '=' => some .assigned
  | '?' => some .error
  | '+' => some .replacement
  | _ => none

def redirectionMode : Reading (Option (RedirectionMode × Nat)) := do
  if ← accept ">>" then return some (.append, 1)
  else if ← accept ">&" then return some (.duplicate, 1)
  else if ← accept "<&" then return some (.duplicate, 0)
  else if ← accept ">|" then return some (.overwrite, 1)
  else if ← accept "<>" then return some (.read, 0)
  else if ← accept ">" then return some (.write, 1)
  else if ← accept "<" then return some (.read, 0)
  else return none

def hereLines (delimiter : List Char) (dropTabs : Bool) : Nat → Reading (List Char)
  | 0 => return []
  | fuel + 1 => do
    if (← ahead).isEmpty then return []
    let line := (← takeWhile (· ≠ '\n')).toList
    skip 1
    let line := if dropTabs then line.dropWhile (· == '\t') else line
    if line = delimiter then return []
    else return line ++ '\n' :: (← hereLines delimiter dropTabs fuel)

/-- Takes the lines of a text that stands in the script from after the line being read. -/
def hereText (delimiter : String) (dropTabs : Bool) (fuel : Nat) : Reading (List Char) := do
  let before := (← ahead).takeWhile (· ≠ '\n')
  let outer ← get
  skip (before.length + 1)
  let text ← hereLines delimiter.toList dropTabs fuel
  let left := (← get).rest
  set (Source.mk (before ++ '\n' :: left) outer.line)
  return text

/-! ### Words and commands -/

mutual

def expansion (quoted : Bool) : Nat → Reading Piece
  | 0 => fault "nesting too deep"
  | fuel + 1 => do
    if ← accept "((" then
      let text ← expressionText 0 fuel
      return .arithmetic (← within text (quotedPieces none fuel)) quoted
    else if ← accept "(" then
      let commands ← list fuel
      if ← accept ")" then return .output commands quoted
      else fault (s!"{← nextName} unexpected (expecting \")\")")
    else if ← accept "\x7b" then bracedExpansion quoted fuel
    else
      match ← peek? with
      | some c =>
        if c.isDigit then do
          skip 1
          return .parameter (String.singleton c) quoted
        else
          let name ← parameterName
          return if name.isEmpty then .text "$" quoted else .parameter name quoted
      | none => return .text "$" quoted

def bracedExpansion (quoted : Bool) : Nat → Reading Piece
  | 0 => fault "nesting too deep"
  | fuel + 1 => do
    let isLength := match ← ahead with
      | '#' :: c :: rest => isNameChar c || (c != '\x7d' && rest.head? == some '\x7d')
      | _ => false
    if isLength then
      skip 1
      let name ← parameterName
      if !name.isEmpty && (← accept "\x7d") then return .length name quoted
      else badExpansion quoted fuel
    else
      let name ← parameterName
      if name.isEmpty then badExpansion quoted fuel
      else if ← accept "\x7d" then return .parameter name quoted
      else
        let orEmpty ← accept ":"
        match ← ahead with
        | c :: rest =>
          match substituteKind? c with
          | some kind => do
            skip 1
            return .substitute name kind orEmpty (← bracedWord quoted fuel) quoted
          | none =>
            if !orEmpty && (c == '#' || c == '%') then do
              let longest := rest.head? == some c
              skip (if longest then 2 else 1)
              return .cut name ⟨c == '%', longest⟩ (← bracedWord false fuel) quoted
            else badExpansion quoted fuel
        | [] => badExpansion quoted fuel

/-- The rest of a parameter in braces that cannot be expanded. -/
def badExpansion (quoted : Bool) : Nat → Reading Piece
  | 0 => fault "nesting too deep"
  | fuel + 1 => do
    let _ ← bracedWord quoted fuel
    return .invalid

def bracedWord (quoted : Bool) : Nat → Reading Word
  | 0 => fault "nesting too deep"
  | fuel + 1 => do
    if ← accept "\x7d" then return []
    else if (← ahead).isEmpty then
      fault (if quoted then "Unterminated quoted string" else "Missing '\x7d'")
    else
      let pieces ← piece quoted (fun c => c == '\x7d') fuel
      return pieces ++ (← bracedWord quoted fuel)

/-- The pieces up to a closing double quote, or up to the end where there is none to come. -/
def quotedPieces (close : Option Char) : Nat → Reading Word
  | 0 => fault "nesting too deep"
  | fuel + 1 => do
    match ← ahead with
    | [] => if close.isNone then return [] else fault "Unterminated quoted string"
    | c :: _ =>
      if close = some c then do
        skip 1
        return []
      else
        let pieces ← piece true (fun d => close = some d) fuel
        return pieces ++ (← quotedPieces close fuel)

/-- The next part of a word, which stops before the characters given. -/
def piece (quoted : Bool) (stop : Char → Bool) : Nat → Reading Word
  | 0 => fault "nesting too deep"
  | fuel + 1 => do
    match ← ahead with
    | [] => fault "Unterminated quoted string"
    | '\\' :: '\n' :: _ => do
      skip 2
      return []
    | '\\' :: c :: _ => do
      skip 2
      let isEscaped := !quoted || c == '$' || c == '"' || c == '\\' || c == backquote ||
        (c == '\x7d' && stop c)
      return [.text (if isEscaped then String.singleton c else String.ofList ['\\', c]) true]
    | '$' :: _ => do
      skip 1
      return [← expansion quoted fuel]
    | '\'' :: _ =>
      if quoted then do
        skip 1
        return [.text "'" true]
      else do
        skip 1
        let text ← takeWhile (· ≠ '\'')
        if ← accept "'" then return [.text text true] else fault "Unterminated quoted string"
    | '"' :: _ => do
      skip 1
      if quoted && !stop '\x7d' then return [.text "\"" true]
      else
        let pieces ← quotedPieces (some '"') fuel
        return .text "" true :: pieces
    | c :: _ =>
      if c == backquote then do
        skip 1
        let text ← backquoted fuel
        return [.output (← within text (list fuel)) quoted]
      else
        let isPlain := fun d => !stop d && d != '\\' && d != '$' && d != '\'' && d != '"' &&
          d != backquote
        let text ← takeWhile isPlain
        if text.isEmpty then do
          skip 1
          return [.text (String.singleton c) quoted]
        else return [.text text quoted]

def wordPieces : Nat → Reading Word
  | 0 => fault "nesting too deep"
  | fuel + 1 => do
    match ← peek? with
    | none => return []
    | some c =>
      if endsWord c then return []
      else
        let pieces ← piece false endsWord fuel
        return pieces ++ (← wordPieces fuel)

def word? : Nat → Reading (Option Word)
  | 0 => fault "nesting too deep"
  | fuel + 1 => do
    skipBlanks fuel
    match ← peek? with
    | none => return none
    | some c => if endsWord c then return none else return some (← wordPieces fuel)

def words : Nat → Reading (List Word)
  | 0 => fault "nesting too deep"
  | fuel + 1 => do
    match ← word? fuel with
    | none => return []
    | some w => return w :: (← words fuel)

def redirection? : Nat → Reading (Option Redirection)
  | 0 => fault "nesting too deep"
  | fuel + 1 => do
    skipBlanks fuel
    let digits := (← ahead).takeWhile Char.isDigit
    let operator := (← ahead)[digits.length]?
    if operator = some '<' ∨ operator = some '>' then
      skip digits.length
      let stream? := (String.ofList digits).toNat?
      let dropTabs ← startsWith "<<-"
      if ← accept "<<" then
        if dropTabs then skip 1
        skipBlanks fuel
        let start ← ahead
        match ← word? fuel with
        | none => unexpected
        | some w =>
          let written := start.take (start.length - (← ahead).length)
          let delimiter := String.join (w.map fun
            | .text s _ => s
            | _ => "")
          let isQuoted := written.any fun c => c == '\'' || c == '"' || c == '\\'
          let text ← hereText delimiter dropTabs fuel
          let pieces ← if isQuoted then pure [Piece.text (String.ofList text) true]
            else within text (quotedPieces none fuel)
          return some (.here (stream?.getD 0) pieces)
      else
        match ← redirectionMode with
        | none => return none
        | some (mode, stream) =>
          match ← word? fuel with
          | none => unexpected
          | some target => return some (.file (stream?.getD stream) mode target)
    else return none

def redirections : Nat → Reading (List Redirection)
  | 0 => fault "nesting too deep"
  | fuel + 1 => do
    match ← redirection? fuel with
    | none => return []
    | some r => return r :: (← redirections fuel)

def simpleParts (line : Nat) (assignments : List (String × Word)) (given : List Word)
    (redirected : List Redirection) : Nat → Reading Command
  | 0 => fault "nesting too deep"
  | fuel + 1 => do
    match ← redirection? fuel with
    | some r => simpleParts line assignments given (redirected ++ [r]) fuel
    | none =>
      let name := (← ahead).takeWhile isNameChar
      let isAssignment := given.isEmpty && name.head?.any isNameStart &&
        (← ahead)[name.length]? == some '='
      if isAssignment then
        skip (name.length + 1)
        let value ← wordPieces fuel
        simpleParts line (assignments ++ [(String.ofList name, value)]) given redirected fuel
      else
        match ← word? fuel with
        | some w => simpleParts line assignments (given ++ [w]) redirected fuel
        | none =>
          if assignments.isEmpty && given.isEmpty && redirected.isEmpty then unexpected
          else if (← startsWith "(") && assignments.isEmpty && redirected.isEmpty then
            match given with
            | [name] => definition name fuel
            | _ => unexpected
          else return .simple line assignments given redirected

/-- A function, whose name is followed by an opening parenthesis. -/
def definition (name : Word) : Nat → Reading Command
  | 0 => fault "nesting too deep"
  | fuel + 1 => do
    skip 1
    skipBlanks fuel
    if !(← accept ")") then unclosed
    else
      match name with
      | [.text name false] =>
        if isName name && !specialCommands.contains name then
          skipLines fuel
          return .define name (← command fuel)
        else fault "Bad function name"
      | _ => fault "Bad function name"

def arms : Nat → Reading (List (List Word × Script))
  | 0 => fault "nesting too deep"
  | fuel + 1 => do
    skipLines fuel
    if (← plainWord) = "esac" then
      skip 4
      return []
    else if (← ahead).isEmpty then fault "end of file unexpected (expecting \")\")"
    else
      let _ ← accept "("
      let patterns ← armPatterns fuel
      let body ← list fuel
      let _ ← accept ";;"
      return (patterns, body) :: (← arms fuel)

def armPatterns : Nat → Reading (List Word)
  | 0 => fault "nesting too deep"
  | fuel + 1 => do
    match ← word? fuel with
    | none => unclosed
    | some w =>
      skipBlanks fuel
      if ← accept "|" then return w :: (← armPatterns fuel)
      else if ← accept ")" then return [w]
      else unclosed

def alternatives : Nat → Reading (Script × Script)
  | 0 => fault "nesting too deep"
  | fuel + 1 => do
    keyword "then"
    let body ← nonempty (← list fuel)
    match ← plainWord with
    | "else" => do
      skip 4
      let otherwise ← nonempty (← list fuel)
      keyword "fi"
      return (body, otherwise)
    | "elif" => do
      skip 4
      let condition ← nonempty (← list fuel)
      let (inner, otherwise) ← alternatives fuel
      return (body, [.choice condition inner otherwise []])
    | _ => do
      keyword "fi"
      return (body, [])

def loopBody : Nat → Reading Script
  | 0 => fault "nesting too deep"
  | fuel + 1 => do
    keyword "do"
    let body ← nonempty (← list fuel)
    keyword "done"
    return body

/-- A command that begins with a word of the language, or a simple one. -/
def command : Nat → Reading Command
  | 0 => fault "nesting too deep"
  | fuel + 1 => do
    skipBlanks fuel
    let line := (← get).line
    if ← accept "(" then
      let body ← nonempty (← list fuel)
      if ← accept ")" then return .subshell body (← redirections fuel)
      else fault (s!"{← nextName} unexpected (expecting \")\")")
    else
      match ← plainWord with
      | "\x7b" => do
        skip 1
        let body ← nonempty (← list fuel)
        keyword "\x7d"
        return .group body (← redirections fuel)
      | "if" => do
        skip 2
        let condition ← nonempty (← list fuel)
        let (body, otherwise) ← alternatives fuel
        return .choice condition body otherwise (← redirections fuel)
      | "while" => do
        skip 5
        let condition ← nonempty (← list fuel)
        let body ← loopBody fuel
        return .loop false condition body (← redirections fuel)
      | "until" => do
        skip 5
        let condition ← nonempty (← list fuel)
        let body ← loopBody fuel
        return .loop true condition body (← redirections fuel)
      | "for" => do
        skip 3
        skipBlanks fuel
        let name ← takeWhile isNameChar
        if !name.toList.head?.any isNameStart then fault "Bad for loop variable"
        else
          skipLines fuel
          let given ← if (← plainWord) = "in" then do
              skip 2
              pure (some (← words fuel))
            else pure none
          skipBlanks fuel
          let _ ← accept ";"
          skipLines fuel
          let body ← loopBody fuel
          return .each name given body (← redirections fuel)
      | "case" => do
        skip 4
        match ← word? fuel with
        | none => unexpected
        | some w =>
          skipLines fuel
          keyword "in"
          let found ← arms fuel
          return .cases w found (← redirections fuel)
      | name =>
        if closers.contains name || name == "!" then unexpected
        else simpleParts line [] [] [] fuel

def piped : Nat → Reading (List Command)
  | 0 => fault "nesting too deep"
  | fuel + 1 => do
    let first ← command fuel
    skipBlanks fuel
    if (← startsWith "|") && !(← startsWith "||") then
      skip 1
      skipLines fuel
      return first :: (← piped fuel)
    else return [first]

def pipeline : Nat → Reading Command
  | 0 => fault "nesting too deep"
  | fuel + 1 => do
    skipBlanks fuel
    let negated := (← plainWord) == "!"
    if negated then skip 1
    match ← piped fuel with
    | [c] => return if negated then .pipeline true [c] else c
    | commands => return .pipeline negated commands

def joined (first : Command) : Nat → Reading Command
  | 0 => fault "nesting too deep"
  | fuel + 1 => do
    skipBlanks fuel
    if ← accept "&&" then
      skipLines fuel
      joined (.both first (← pipeline fuel)) fuel
    else if ← accept "||" then
      skipLines fuel
      joined (.either first (← pipeline fuel)) fuel
    else return first

/-- Commands up to the end, a closing parenthesis, or a word that ends a list. -/
def list : Nat → Reading Script
  | 0 => fault "nesting too deep"
  | fuel + 1 => do
    skipLines fuel
    let isClosed := closers.contains (← plainWord)
    match ← peek? with
    | none => return []
    | some c =>
      if isClosed || c == ')' || (← startsWith ";;") then return []
      else
        let first ← joined (← pipeline fuel) fuel
        skipBlanks fuel
        if (← startsWith "&") && !(← startsWith "&&") then
          skip 1
          return .background first :: (← list fuel)
        else if (← startsWith ";") && !(← startsWith ";;") then
          skip 1
          return first :: (← list fuel)
        else if ← startsWith "\n" then return first :: (← list fuel)
        else return [first]

end

def script (fuel : Nat) : Reading Script := do
  let commands ← list fuel
  if (← ahead).isEmpty then return commands else unexpected

end Reading

def Script.read (text : String) : Except ScriptFault Script :=
  let s := text.toList
  (Reading.script (8 * s.length + 16)).run' ⟨s, 1⟩

end Runbook.Shell
