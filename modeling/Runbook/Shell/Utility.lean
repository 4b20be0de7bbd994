import Runbook.Shell.Session
import Runbook.Decimal.Reading
import Runbook.Shell.OctetMap
import Runbook.Text.Blank

/-!
The utilities that scripts find on every system. A utility takes its arguments and gives an exit
code.
-/

namespace Runbook.Shell

abbrev Utility := List String → Eval Nat

namespace Utility

open Eval

/-! ### Arguments and complaints -/

/-- A character that needs no quotes in a complaint. -/
def isHarmless (c : Char) : Bool := c.isAlphanum || "_./+:@%,=-^".toList.contains c

def shown (name : String) : String :=
  if !name.isEmpty && name.toList.all isHarmless then name else "'" ++ name ++ "'"

def complainOf (utility name : String) (e : SystemError) : Eval Unit :=
  complain s!"{utility}: {name}: {e.name}"

/-- The letters of the options at the start of the arguments, and the operands. -/
def options (arguments : List String) : List Char × List String :=
  let isOption := fun a : String => a.length > 1 && a.toList.head? == some '-' && a != "--"
  let given := arguments.takeWhile isOption
  let rest := arguments.drop given.length
  (given.flatMap fun a => a.toList.drop 1, if rest.head? == some "--" then rest.drop 1 else rest)

def valueOf? (option : Char) : List String → Option String × List String
  | [] => (none, [])
  | a :: rest =>
    match a.toList with
    | '-' :: c :: joined =>
      if c == option then
        if joined.isEmpty then (rest.head?, rest.drop 1) else (some (String.ofList joined), rest)
      else
        let (value, others) := valueOf? option rest
        (value, a :: others)
    | _ =>
      let (value, others) := valueOf? option rest
      (value, a :: others)

/-- Runs an action on each operand; the exit code is one if any of them fails. -/
def onEach (operands : List String) (act : String → Eval Bool) : Eval Nat := do
  let results ← operands.mapM act
  return if results.all id then 0 else 1

/-- The names of the operands, or that of the input without any, with the octets of those that could
be read; of the others there is a complaint. -/
def partsOf (operands : List String) (refuse : String → SystemError → Eval Unit) :
    Eval (List (String × Option (List UInt8))) :=
  (if operands.isEmpty then ["-"] else operands).mapM fun name => do
    if name = "-" then return ("standard input", some (← takeInput))
    match ← readFile name with
    | .ok octets => return (name, some octets)
    | .error e =>
      refuse name e
      return (name, none)

/-- The octets of the operands one after another, or of the input without any, and whether all of
them could be read. -/
def contents (utility : String) (operands : List String) : Eval (List UInt8 × Bool) := do
  let parts ← partsOf operands fun name e => complainOf utility (shown name) e
  return (parts.flatMap fun p => p.2.getD [], parts.all fun p => p.2.isSome)

/-- The lines of octets, each with the line feed that ends it. -/
def linesOf : List UInt8 → List (List UInt8)
  | [] => []
  | b :: rest =>
    if b = 10 then [10] :: linesOf rest
    else match linesOf rest with
      | [] => [[b]]
      | line :: others => (b :: line) :: others

def codeOf (ok : Bool) : Nat := if ok then 0 else 1

/-! ### Texts -/

/-- Octets with their numbers before lines, from a number on; if asked, only before those that are
not empty. -/
def numbered (onlyFull : Bool) : Nat → List (List UInt8) → List UInt8
  | _, [] => []
  | n, line :: rest =>
    if onlyFull && line == [10] then line ++ numbered onlyFull n rest
    else
      let digits := toString n
      Octets.ofText ("".pushn ' ' (6 - digits.length) ++ digits ++ "\t") ++ line ++
        numbered onlyFull (n + 1) rest

def visible (b : UInt8) : List UInt8 :=
  if b = 9 || b = 10 then [b]
  else if b < 32 then [94, b + 64]
  else if b = 127 then [94, 63]
  else if b < 128 then [b]
  else if b < 160 then [77, 45, 94, b - 64]
  else if b = 255 then [77, 45, 94, 63]
  else [77, 45, b - 128]

/-- Copies the operands one after another to the output. -/
def cat : Utility := fun arguments => do
  let (letters, operands) := options arguments
  let (octets, ok) ← contents "cat" operands
  let asks := fun cs : List Char => letters.any cs.contains
  let shown := octets.flatMap fun b =>
    if b = 10 && asks ['E', 'e', 'A'] then [36, 10]
    else if b = 9 && asks ['T', 't', 'A'] then [94, 73]
    else if asks ['v', 'e', 't', 'A'] then visible b
    else [b]
  write 1 (if asks ['n', 'b'] then numbered (asks ['b']) 1 (linesOf shown) else shown)
  return codeOf ok

/-- The number of lines that an option of digits alone asks for. -/
def shortCount? (arguments : List String) : Option (Nat × List String) :=
  match arguments with
  | a :: rest =>
    match a.toList with
    | '-' :: digits =>
      if digits.all Char.isDigit then (String.ofList digits).toNat?.map (·, rest) else none
    | _ => none
  | [] => none

/-- The number of octets or lines that an option asks for. -/
def countOf (arguments : List String) : Option (Bool × Nat) × List String :=
  if let some (n, rest) := shortCount? arguments then (some (false, n), rest) else
  match valueOf? 'c' arguments with
  | (some n, rest) => (n.toNat?.map fun n => (true, n), rest)
  | (none, rest) =>
    match valueOf? 'n' rest with
    | (some n, rest) => (n.toNat?.map fun n => (false, n), rest)
    | (none, rest) => (some (false, 10), rest)

def excerpts (utility : String) (operands : List String) (part : List UInt8 → List UInt8) :
    Eval Nat := do
  let parts ← partsOf operands fun name e =>
    complain s!"{utility}: cannot open '{name}' for reading: {e.name}"
  for ((name, octets?), i) in (parts.filter fun p => p.2.isSome).zipIdx do
    if 1 < operands.length then
      print ((if 0 < i then "\n" else "") ++ s!"==> {name} <==\n")
    write 1 (part (octets?.getD []))
  return codeOf (parts.all fun p => p.2.isSome)

def head : Utility := fun arguments => do
  match countOf arguments with
  | (none, _) =>
    complain "head: invalid number"
    return 1
  | (some (true, n), ["/dev/zero"]) =>
    write 1 (List.replicate n 0)
    return 0
  | (some (isOctets, n), operands) =>
    excerpts "head" operands fun octets =>
      if isOctets then octets.take n else ((linesOf octets).take n).flatten

/-- The number of the line that an option asks to begin with, counted from one. -/
def firstLine? (arguments : List String) : Option (Nat × List String) :=
  match valueOf? 'n' arguments with
  | (some value, rest) =>
    match value.toList with
    | '+' :: digits => (String.ofList digits).toNat?.map (·, rest)
    | _ => none
  | (none, _) => none

def tail : Utility := fun arguments => do
  if let some (n, operands) := firstLine? arguments then
    return ← excerpts "tail" operands fun octets => ((linesOf octets).drop (n - 1)).flatten
  match countOf arguments with
  | (none, _) =>
    complain "tail: invalid number"
    return 1
  | (some (isOctets, n), operands) =>
    excerpts "tail" operands fun octets =>
      let lines := linesOf octets
      if isOctets then octets.drop (octets.length - n) else (lines.drop (lines.length - n)).flatten

/-- Copies the lines in reverse order. -/
def tac : Utility := fun arguments => do
  let (_, operands) := options arguments
  let (octets, ok) ← contents "tac" operands
  write 1 (linesOf octets).reverse.flatten
  return codeOf ok

def wordsOf (octets : List UInt8) : Nat :=
  let isBlank := fun b : UInt8 => b == 32 || (9 ≤ b && b ≤ 13)
  ((octets.splitBy fun a b => isBlank a == isBlank b).filter fun g => !g.any isBlank).length

def wc : Utility := fun arguments => do
  let (letters, operands) := options arguments
  let (octets, ok) ← contents "wc" operands
  let all := letters.isEmpty
  let counts := (if all || letters.contains 'l' then [octets.count 10] else []) ++
    (if all || letters.contains 'w' then [wordsOf octets] else []) ++
    if all || letters.contains 'c' then [octets.length] else []
  let width := if counts.length = 1 then 0 else 7
  let columns := counts.map fun n => "".pushn ' ' (width - (toString n).length) ++ toString n
  printLine (" ".intercalate (columns ++ operands))
  return codeOf ok

def tr : Utility := fun arguments => do
  let (letters, operands) := options arguments
  let request : OctetMap.Request :=
    ⟨letters.contains 'd', letters.contains 's', letters.contains 'c' || letters.contains 'C',
      letters.contains 't'⟩
  match request.fault? operands with
  | some lines =>
    complain ("tr: " ++ "\n".intercalate lines)
    return 1
  | none =>
    match request.apply operands (← takeInput) with
    | .ok octets =>
      write 1 octets
      return 0
    | .error message =>
      complain ("tr: " ++ message)
      return 1

def sequence (first step last : Int) : List Int :=
  if step = 0 then []
  else
    let count := (last - first) / step + 1
    (List.range count.toNat).map fun (i : Nat) => first + step * i

def seq : Utility := fun arguments => do
  let numbers? := arguments.mapM String.toInt?
  let bounds? := match numbers? with
    | some [last] => some (1, 1, last)
    | some [first, last] => some (first, 1, last)
    | some [first, step, last] => some (first, step, last)
    | _ => none
  match bounds? with
  | some (first, step, last) =>
    print (String.join ((sequence first step last).map fun n => toString n ++ "\n"))
    return 0
  | none =>
    match arguments.find? fun a => a.toInt?.isNone with
    | some a => complain s!"seq: invalid floating point argument: '{a}'"
    | none => complain "seq: missing operand"
    complain "Try 'seq --help' for more information."
    return 1

def sort : Utility := fun arguments => do
  let (letters, operands) := options arguments
  let (octets, ok) ← contents "sort" operands
  let lines := (linesOf octets).map fun line => Octets.text (line.filter (· ≠ 10))
  let value := fun s : String => ((trimmed s).toInt?).getD 0
  let before := fun a b : String =>
    if letters.contains 'n' then
      if value a = value b then decide (a ≤ b) else decide (value a < value b)
    else decide (a ≤ b)
  let sorted := lines.mergeSort before
  let sorted := if letters.contains 'u' then
      (sorted.splitBy (· == ·)).filterMap List.head? else sorted
  let sorted := if letters.contains 'r' then sorted.reverse else sorted
  print (String.join (sorted.map (· ++ "\n")))
  return codeOf ok

def uniq : Utility := fun arguments => do
  let (letters, operands) := options arguments
  let (octets, ok) ← contents "uniq" operands
  let lines := (linesOf octets).map fun line => Octets.text (line.filter (· ≠ 10))
  for group in lines.splitBy (· == ·) do
    let count := toString group.length
    let start := if letters.contains 'c' then
      "".pushn ' ' (7 - count.length) ++ count ++ " " else ""
    printLine (start ++ group.headD "")
  return codeOf ok

def tee : Utility := fun arguments => do
  let (letters, operands) := options arguments
  let octets ← takeInput
  write 1 octets
  onEach operands fun name => do
    let path ← located name
    let text := Text.Utf8.decode octets
    let result ← if letters.contains 'a' then system (.append path text)
      else system (.write path text)
    match result with
    | .ok () => return true
    | .error e =>
      complainOf "tee" (shown name) e
      return false

/-! ### Files -/

/-- The names in a directory; those that start with a dot only if they are asked for. -/
def entries (letters : List Char) (names : List String) : List String :=
  let isHidden := fun n : String => n.toList.head? == some '.'
  if letters.contains 'a' then [".", ".."] ++ names
  else if letters.contains 'A' then names
  else names.filter fun n => !isHidden n

def ls : Utility := fun arguments => do
  let (letters, operands) := options arguments
  let operands := if operands.isEmpty then ["."] else operands.mergeSort fun a b => decide (a ≤ b)
  let kinds ← operands.mapM fun name => do
    let kind ← system (.kind (← located name))
    if kind.isNone then
      complain s!"ls: cannot access '{name}': No such file or directory"
    return (name, kind)
  let isListed := fun (kind : Option NodeKind) => kind == some .directory && !letters.contains 'd'
  let files := kinds.filter fun e => e.2.isSome && !isListed e.2
  let directories := kinds.filter fun e => isListed e.2
  for (name, _) in files do printLine name
  for ((name, _), i) in directories.zipIdx do
    if kinds.length > 1 then
      if i > 0 || !files.isEmpty then printLine ""
      printLine (name ++ ":")
    match ← system (.list (← located name)) with
    | .ok names => for entry in entries letters names do printLine (Octets.spell entry)
    | .error _ => pure ()
  return if kinds.all fun e => e.2.isSome then 0 else 2

def touch : Utility := fun arguments => do
  let (letters, operands) := options arguments
  onEach operands fun name => do
    let path ← located name
    if letters.contains 'c' && (← system (.kind path)).isNone then return true
    match ← system (.append path "") with
    | .ok () => return true
    | .error .isDirectory => return true
    | .error e =>
      complain s!"touch: cannot touch '{name}': {e.name}"
      return false

def mkdir : Utility := fun arguments => do
  let (letters, operands) := options arguments
  onEach operands fun name => do
    let path ← located name
    let parent := path.parent?.getD "/"
    let fault? ← do
      if letters.contains 'p' then pure none
      else if (← system (.kind path)).isSome then pure (some SystemError.exists)
      else match ← system (.kind parent) with
        | none => pure (some .notFound)
        | some .file => pure (some .notDirectory)
        | some .directory => pure none
    let result ← match fault? with
      | some e => pure (.error e)
      | none => system (.makeDirectories path)
    match result with
    | .ok () => return true
    | .error e =>
      complain s!"mkdir: cannot create directory '{name}': {e.name}"
      return false

/-- Removes a directory with all that is in it; `depth` bounds the nesting. -/
def removeAll (path : FilePath) : Nat → Eval Bool
  | 0 => return false
  | depth + 1 => do
    match ← system (.kind path) with
    | some .directory =>
      if let .ok names ← system (.list path) then
        for name in names do
          let _ ← removeAll (path.join name) depth
      return (← system (.removeDirectory path)).toOption.isSome
    | _ => return (← system (.remove path)).toOption.isSome

def rm : Utility := fun arguments => do
  let (letters, operands) := options arguments
  let isForced := letters.contains 'f'
  let isDeep := letters.contains 'r' || letters.contains 'R'
  onEach operands fun name => do
    let path ← located name
    if isDeep && (← system (.kind path)) == some .directory then removeAll path 1000
    else match ← system (.remove path) with
      | .ok () => return true
      | .error e =>
        if isForced && e = .notFound then return true
        else
          complain s!"rm: cannot remove '{name}': {e.name}"
          return false

def rmdir : Utility := fun arguments => do
  let (_, operands) := options arguments
  onEach operands fun name => do
    match ← system (.removeDirectory (← located name)) with
    | .ok () => return true
    | .error e =>
      complain s!"rmdir: failed to remove '{name}': {e.name}"
      return false

/-- The place that a file is put in: under its own name if the target is a directory. -/
def destination (source target : FilePath) : Eval FilePath := do
  let path ← located target
  if (← system (.kind path)) == some .directory then
    return path.join (Octets.read ((FilePath.fileName? source).getD ""))
  else return path

def cp : Utility := fun arguments => do
  match options arguments with
  | (_, [source, target]) =>
    match ← readFile source with
    | .error e =>
      complain s!"cp: cannot stat '{source}': {e.name}"
      return 1
    | .ok octets =>
      match ← system (.write (← destination source target) (Text.Utf8.decode octets)) with
      | .ok () => return 0
      | .error e =>
        complain s!"cp: cannot create regular file '{target}': {e.name}"
        return 1
  | _ =>
    complain "cp: missing file operand"
    return 1

def mv : Utility := fun arguments => do
  match options arguments with
  | (_, [source, target]) =>
    match ← system (.rename (← located source) (← destination source target)) with
    | .ok () => return 0
    | .error .notFound =>
      complain s!"mv: cannot stat '{source}': No such file or directory"
      return 1
    | .error e =>
      complain s!"mv: cannot move '{source}' to '{target}': {e.name}"
      return 1
  | _ =>
    complain "mv: missing file operand"
    return 1

def basename : Utility := fun arguments => do
  match arguments with
  | name :: ending =>
    let base := (FilePath.fileName? name).getD name
    let tail := ending.headD ""
    let cut := !tail.isEmpty && base.endsWith tail && base != tail
    printLine (if cut then String.ofList (base.toList.take (base.length - tail.length)) else base)
    return 0
  | [] =>
    complain "basename: missing operand"
    return 1

def dirname : Utility := fun arguments => do
  match arguments with
  | [] =>
    complain "dirname: missing operand"
    return 1
  | names =>
    for name in names do
      let parent := (FilePath.parent? name).getD "/"
      printLine (if parent.isEmpty then "." else parent)
    return 0

/-! ### Time and surroundings -/

def seconds? (s : String) : Option Float :=
  let chars := s.toList
  let (digits, factor) := match chars.getLast? with
    | some 's' => (chars.dropLast, 1)
    | some 'm' => (chars.dropLast, 60)
    | some 'h' => (chars.dropLast, 3600)
    | some 'd' => (chars.dropLast, 86400)
    | _ => (chars, (1 : Float))
  (floatOfText? digits).bind fun x => if 0 ≤ x then some (x * factor) else none

def sleep : Utility := fun arguments => do
  if arguments.isEmpty then
    complain "sleep: missing operand"
    return 1
  match arguments.mapM seconds? with
  | some parts =>
    let total := parts.foldl (· + ·) 0
    match if total.isFinite then Duration.ofFloat? total else none with
    | some d => system (.sleep d)
    | none => system (.sleep Duration.longest)
    return 0
  | none =>
    for a in arguments do
      if (seconds? a).isNone then complain s!"sleep: invalid time interval '{a}'"
    complain "Try 'sleep --help' for more information."
    return 1

def printVariables : Utility := fun arguments => do
  let vars ← environment
  if arguments.isEmpty then
    for (name, value) in vars do printLine (name ++ "=" ++ value)
    return 0
  else
    let values := arguments.map vars.find?
    for value in values.filterMap id do printLine value
    return codeOf (values.all Option.isSome)

def table : List (String × Utility) :=
  [("basename", basename), ("cat", cat), ("cp", cp), ("dirname", dirname), ("head", head),
    ("ls", ls), ("mkdir", mkdir), ("mv", mv), ("printenv", printVariables), ("rm", rm),
    ("rmdir", rmdir), ("seq", seq), ("sleep", sleep), ("sort", sort), ("tac", tac),
    ("tail", tail), ("tee", tee), ("touch", touch), ("tr", tr), ("uniq", uniq), ("wc", wc)]

def find? (name : String) : Option Utility := table.lookup name

end Utility

end Runbook.Shell
