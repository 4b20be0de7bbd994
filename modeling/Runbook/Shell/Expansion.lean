import Runbook.Shell.Session
import Runbook.Shell.Glob
import Runbook.Shell.Arithmetic

/-!
The expansion of words: parameters, the output of commands and arithmetic are put in place, what is
not quoted is taken apart into fields, and patterns of file names stand for the files there are.
-/

namespace Runbook.Shell

/-- A part of an expanded word: a text, which is taken apart unless it stands in the script or in
quotes, the end of one argument of the shell, or that there are none. -/
inductive Fragment where
  | text (s : String) (quoted splits : Bool)
  | argumentEnd
  | noArgument
  deriving DecidableEq, Repr

namespace Fragment

/-! ### Fields -/

abbrev Field := List Glob.Marked

/-- The fields that are complete, in reverse order, and the field that is being read. -/
structure Splitting where
  complete : List Field
  current : Option Field
  /-- Whether the last field was ended by a blank. -/
  afterBlank : Bool

def isFieldBlank (c : Char) : Bool := c == ' ' || c == '\t' || c == '\n'

namespace Splitting

def close (s : Splitting) : Splitting :=
  ⟨s.current.toList ++ s.complete, none, s.afterBlank⟩

def extend (s : Splitting) (characters : Field) : Splitting :=
  ⟨s.complete, some (s.current.getD [] ++ characters), false⟩

/-- Takes a character that separates fields: any blanks count as one, and other separators may have
an empty field before them. -/
def separate (s : Splitting) (c : Char) : Splitting :=
  if isFieldBlank c then
    if s.current.isSome then { s.close with afterBlank := true } else s
  else if s.current.isNone && !s.afterBlank then { (s.extend []).close with afterBlank := false }
  else { s.close with afterBlank := false }

def take (separators : List Char) (s : Splitting) (c : Char) : Splitting :=
  if separators.contains c then s.separate c else s.extend [(c, false)]

def add (separators : List Char) (s : Splitting) : Fragment → Splitting
  | .text t quoted true =>
    if quoted then s.extend (t.toList.map (·, true)) else t.toList.foldl (take separators) s
  | .text t quoted false =>
    if t.isEmpty && !quoted then s else s.extend (t.toList.map (·, quoted))
  | .argumentEnd => { s.close with afterBlank := true }
  | .noArgument => s

end Splitting

/-- The fields of an expanded word. A word of nothing but the arguments has none without them. -/
def fields (separators : List Char) (fragments : List Fragment) : List Field :=
  let split := (fragments.foldl (Splitting.add separators) ⟨[], none, false⟩).close
  let found := split.complete.reverse
  if fragments.contains .noArgument && found == [[]] then [] else found

/-- The text of an expanded word that is not taken apart, with a separator between arguments. -/
def wholeText (separator : String) (fragments : List Fragment) : String :=
  String.join (fragments.map fun
    | .text t .. => t
    | .argumentEnd => separator
    | .noArgument => "")

/-- The characters of an expanded word as a pattern. -/
def marked (fragments : List Fragment) : Field :=
  fragments.flatMap fun
    | .text t quoted _ => t.toList.map (·, quoted)
    | _ => []

end Fragment

namespace Expansion

open Eval

/-! ### Parameters -/

def separators : Eval (List Char) := do
  return ((← get).vars.find? "IFS").elim [' ', '\t', '\n'] String.toList

def separator : Eval String := do
  return ((← separators).head?.map String.singleton).getD ""

def value? (name : String) : Eval (Option String) := do
  let s ← get
  match name.toNat? with
  | some 0 => return some s.name
  | some n => return s.arguments[n - 1]?
  | none =>
    match name with
    | "#" => return some (toString s.arguments.length)
    | "?" => return some (toString s.status)
    | "$" => return some (toString s.process)
    | "-" => return some s.options.letters
    | "!" => return if s.started = 0 then none else some (toString (s.process + s.started))
    | "*" | "@" =>
      let separator ← separator
      return if s.arguments.isEmpty then none else some (separator.intercalate s.arguments)
    | _ => return s.vars.find? name

/-- Ends a command with a complaint on a parameter. -/
def refuse {α : Type} (name message : String) : Eval α := fail s!"{name}: {message}"

/-- The value of a parameter, which an option of the shell requires to have one. -/
def value (name : String) : Eval String := do
  match ← value? name with
  | some v => return v
  | none =>
    if (← get).options.isOn 'u' && name != "@" && name != "*" then
      refuse name "parameter not set"
    else return ""

def arguments (quoted : Bool) : Eval (List Fragment) := do
  let given := (← get).arguments
  if given.isEmpty then return [.noArgument]
  else return (given.map fun a => [Fragment.text a quoted true]).intersperse [.argumentEnd]
    |>.flatten

def parameter (name : String) (quoted : Bool) : Eval (List Fragment) := do
  if name == "@" || (name == "*" && !quoted) then arguments quoted
  else return [.text (← value name) quoted true]

/-! ### Arithmetic -/

/-- The value of an arithmetic expression; a fault in it ends the command. -/
def arithmetic (expression : String) : Eval Int := do
  let s ← get
  match Arithmetic.evaluate s.vars s.constant expression with
  | .ok (n, vars) =>
    modify fun s => { s with vars }
    return n
  | .error fault =>
    let ofExpression := fun message : String =>
      s!"arithmetic expression: {message}: \"{expression}\""
    fail <| match fault with
      | .divisionByZero => ofExpression "division by zero"
      | .malformed expected => ofExpression ("expecting " ++ expected)
      | .illegalNumber text => "Illegal number: " ++ text
      | .readOnly name => name ++ ": is read only"

/-! ### Words -/

/-- Runs commands and gives what they write. -/
abbrev Capturing := Script → Eval String

/-- A path in the home directory, if a word begins with the mark for it. -/
def atHome (word : Word) : Eval Word := do
  match word with
  | .text t false :: rest =>
    match t.toList with
    | '~' :: path =>
      let home? := (← get).vars.find? "HOME"
      match home?, path.head?.all (· == '/') && (!path.isEmpty || rest.isEmpty) with
      | some home, true =>
        return .text home true :: .text (String.ofList path) false :: rest
      | _, _ => return word
    | _ => return word
  | _ => return word

/-- A word that is assigned, with the paths in it that begin with the mark for the home directory:
they stand at the start and after colons. -/
def atHomes (word : Word) : Eval Word := do
  let piece := fun (isFirst isLast : Bool) (p : Piece) => do
    match p with
    | .text t false =>
      let parts := t.splitOn ":"
      let each ← parts.zipIdx.mapM fun (part, i) => do
        let begins := i > 0 || isFirst
        let ends := i + 1 < parts.length || isLast
        let unmarked : Word := [.text part false]
        let found ← if begins then atHome (if ends then unmarked else unmarked ++ [.text "" false])
          else pure unmarked
        return if i = 0 then found else .text ":" false :: found
      return each.flatten
    | _ => return [p]
  let each ← word.zipIdx.mapM fun (p, i) => piece (i = 0) (i + 1 = word.length) p
  return each.flatten

def spread (quoted : Bool) (fragments : List Fragment) : List Fragment :=
  fragments.map fun
    | .text t q _ => .text t (q || quoted) true
    | other => other

/-- The fragments of a word; `fuel` bounds the nesting of words in it. -/
def fragments (capture : Capturing) : Nat → Word → Eval (List Fragment)
  | 0, _ => fun _ => .unbounded
  | fuel + 1, word => do
    let each ← word.mapM fun piece => do
      match piece with
      | .text t quoted => return [Fragment.text t quoted false]
      | .parameter name quoted => parameter name quoted
      | .length name quoted =>
        return [.text (toString (← value name).length) quoted true]
      | .substitute name kind orEmpty inner quoted =>
        let present? := (← value? name).filter fun v => !(orEmpty && v.isEmpty)
        let home := fun word => if quoted then pure word else atHome word
        match kind, present? with
        | .replacement, some _ => return spread quoted (← fragments capture fuel (← home inner))
        | .replacement, none => return []
        | _, some v =>
          if name == "@" then arguments quoted else return [.text v quoted true]
        | .fallback, none => return spread quoted (← fragments capture fuel (← home inner))
        | .assigned, none =>
          let v := Fragment.wholeText (← separator) (← fragments capture fuel (← home inner))
          assign name v
          return [.text v quoted true]
        | .error, none =>
          let message := Fragment.wholeText (← separator) (← fragments capture fuel (← home inner))
          let usual := if orEmpty then "parameter not set or null" else "parameter not set"
          refuse name (if message.isEmpty then usual else message)
      | .cut name kind pattern quoted =>
        let glob := Glob.read (Fragment.marked (← fragments capture fuel pattern))
        let v := (← value name).toList
        let cut := if kind.fromEnd then glob.cutEnd else glob.cutStart
        let left := cut kind.longest v
        return [.text (String.ofList left) quoted true]
      | .output commands quoted => return [.text (← capture commands) quoted true]
      | .arithmetic expression quoted =>
        let text := Fragment.wholeText (← separator) (← fragments capture fuel expression)
        return [.text (toString (← arithmetic text)) quoted true]
      | .invalid => fail "Bad substitution"
    return each.flatten

def text (capture : Capturing) (fuel : Nat) (word : Word) : Eval String := do
  return Fragment.wholeText (← separator) (← fragments capture fuel (← atHome word))

def assigned (capture : Capturing) (fuel : Nat) (word : Word) : Eval String := do
  return Fragment.wholeText (← separator) (← fragments capture fuel (← atHomes word))

def pattern (capture : Capturing) (fuel : Nat) (word : Word) : Eval Glob := do
  return Glob.read (Fragment.marked (← fragments capture fuel (← atHome word)))

/-! ### Names of files -/

/-- The parts of a pattern between slashes, and whether each has a slash before it. -/
def pathParts (field : Fragment.Field) : List Fragment.Field :=
  field.foldr (fun c parts =>
    match parts with
    | part :: rest => if c.1 == '/' then [] :: part :: rest else (c :: part) :: rest
    | [] => [[c]]) [[]]

/-- The names in a directory that a pattern stands for. Names that begin with a dot are left out
unless the pattern does too. -/
def namesIn (directory : FilePath) (part : Fragment.Field) : Eval (List String) := do
  let g := Glob.read part
  match ← system (.list (← located (if directory.isEmpty then "." else directory))) with
  | .ok names =>
    let all := [".", ".."] ++ names.map Octets.spell
    let isVisible := fun n : String =>
      n.toList.head? != some '.' || part.head?.any fun c => c.1 == '.'
    return (all.filter fun n => isVisible n && g.accepts n.toList).mergeSort
      fun a b => decide (a ≤ b)
  | .error _ => return []

/-- The paths that the parts of a pattern stand for, as they are written, from a path on. -/
def pathsFrom (start : FilePath) : List Fragment.Field → Eval (List FilePath)
  | [] => return [start]
  | part :: rest => do
    let names ←
      if (Glob.read part).isOpen then namesIn start part
      else pure [String.ofList (part.map Prod.fst)]
    let found ← names.mapM fun n => do
      let path := start ++ n
      if rest.isEmpty then
        let kind? ← system (.kind (← located path))
        return if if n.isEmpty then kind? == some .directory else kind?.isSome then [path] else []
      else pathsFrom (path ++ "/") rest
    return found.flatten

/-- The paths that a field stands for: those of a pattern, or the field itself if there are none. -/
def paths (field : Fragment.Field) : Eval (List String) := do
  let plain := String.ofList (field.map Prod.fst)
  if (Glob.read field).isOpen && !(← get).options.isOn 'f' then
    let found ← pathsFrom "" (pathParts field)
    return if found.isEmpty then [plain] else found
  else return [plain]

def fields (capture : Capturing) (fuel : Nat) (words : List Word) : Eval (List String) := do
  let each ← words.mapM fun word => do
    let expanded ← fragments capture fuel (← atHome word)
    let found ← (Fragment.fields (← separators) expanded).mapM paths
    return found.flatten
  return each.flatten

end Expansion

end Runbook.Shell
