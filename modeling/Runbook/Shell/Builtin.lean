import Runbook.Word
import Runbook.Shell.Expansion
import Runbook.Shell.Octets
import Runbook.Shell.Format
import Runbook.Shell.Lexicon
import Runbook.Shell.Test
import Runbook.Shell.Utility

/-!
The commands that are part of the shell because they change it, or because they always were. Those
that run other commands stand with the evaluation of scripts.
-/

namespace Runbook.Shell.Builtin

open Eval

/-! ### Arguments -/

/-- The options at the start of arguments, without values and with values, and the operands. -/
def options (plain valued : String) (arguments : List String) :
    Eval (List (Char × String) × List String) := do
  match Arguments.read plain.toList valued.toList arguments with
  | .ok result => return result
  | .error message => fail message

/-- A number that a command cannot go on without. -/
def number (argument : String) : Eval Nat := do
  match Signal.numeral? argument with
  | some n => if n < Word.count 31 then return n
  | none => pure ()
  fail s!"Illegal number: {argument}"

/-! ### Output -/

def echo : Utility := fun arguments => do
  let isShort := arguments.head? == some "-n"
  let words := if isShort then arguments.drop 1 else arguments
  let (octets, isWhole) := Escape.ofText (" ".intercalate words)
  write 1 (if isWhole && !isShort then octets ++ [10] else octets)
  return 0

def printf : Utility := fun arguments => do
  match ← options "" "" arguments with
  | (_, format :: rest) =>
    let (printing, stop) := Format.apply format rest
    for c in printing.complaints do complainAt c
    write 1 printing.octets
    match stop with
    | some (.fault message) => fail message
    | _ => return if printing.complaints.isEmpty then 0 else 1
  | (_, []) => fail "usage: printf format [arg ...]"

/-! ### Tests -/

def test : Utility := fun arguments => do
  match ← ExceptT.lift (Test.evaluate arguments) with
  | .ok b => return if b then 0 else 1
  | .error message => fail message

def bracket : Utility := fun arguments => do
  if arguments.getLast? == some "]" then test arguments.dropLast else fail "missing ]"

/-! ### Directories -/

/-- The directory that a command is to change to, and whether that is told. -/
def directoryOf (operand : Option String) : Eval (String × Bool) := do
  let vars := (← get).vars
  match operand with
  | none => return ((vars.find? "HOME").getD "", false)
  | some "-" => return ((vars.find? "OLDPWD").getD "", true)
  | some target => return (target, false)

/-- The first directory that a path leads to from one of the directories that are searched, and
whether it is told which one that is. -/
def searched (target : String) : Eval (String × Bool) := do
  let first := ((target.splitOn "/").headD "")
  if target.startsWith "/" || first == "." || first == ".." then return (target, false)
  let target := if target.isEmpty then "." else target
  let starts := (((← get).vars.find? "CDPATH").map fun p => p.splitOn ":").getD []
  let found? ← starts.findM? fun start => do
    return (← system (.kind (← located (FilePath.join start target)))) == some .directory
  return match found? with
    | some start => (FilePath.join start target, !start.isEmpty)
    | none => (target, false)

def changeDirectory : Utility := fun arguments => do
  let (_, operands) ← options "LP" "" arguments
  let (given, isTold) ← directoryOf operands.head?
  let (target, isFound) ← searched given
  let path ← located target
  match ← system (.canonicalize path), ← system (.kind path) with
  | .ok directory, some .directory =>
    modify fun s => { s with
      directory
      vars := (s.vars.bind "OLDPWD" (Octets.spell s.directory)).bind "PWD"
        (Octets.spell directory)
      exported := "OLDPWD" :: "PWD" :: s.exported }
    if isTold || isFound then printLine (Octets.spell directory)
    return 0
  | _, _ => fail s!"can't cd to {given}"

def workingDirectory : Utility := fun arguments => do
  let _ ← options "LP" "" arguments
  printLine (Octets.spell (← get).directory)
  return 0

/-! ### Variables -/

def assignment (argument : String) : String × Option String :=
  let name := argument.toList.takeWhile (· ≠ '=')
  let rest := argument.toList.drop name.length
  (String.ofList name, if rest.isEmpty then none else some (String.ofList (rest.drop 1)))

/-- A value in quotes: single ones, but double ones around those that it holds. -/
def quoted (value : String) : String :=
  let isQuote := fun c => c == '\''
  let groups := value.toList.splitBy fun a b => isQuote a == isQuote b
  let shown := groups.map fun g =>
    if g.any isQuote then "\"" ++ String.ofList g ++ "\"" else "'" ++ String.ofList g ++ "'"
  (if value.toList.head?.all isQuote then "''" else "") ++ String.join shown

def listVariables (word : String) (listed : List String) : Eval Unit := do
  let vars := (← get).vars
  for name in (listed.mergeSort fun a b => decide (a ≤ b)).eraseDups do
    printLine <| word ++ name ++ ((vars.find? name).map fun v => "=" ++ quoted v).getD ""

/-- Binds the variables that are assigned, and runs an action on the name of each. -/
def declare (word : String) (listed : Session → List String) (act : String → Session → Session) :
    Utility := fun arguments => do
  let (asked, operands) ← options "p" "" arguments
  if !asked.isEmpty || operands.isEmpty then listVariables (word ++ " ") (listed (← get))
  else for a in operands do
    let (name, value?) := assignment a
    match value? with
    | some value => assign name value
    | none => if !(← get).vars.isBound name then checkName name
    modify (act name)
  return 0

def exportVariables : Utility :=
  declare "export" Session.exported fun name s => { s with exported := name :: s.exported }

def readonlyVariables : Utility :=
  declare "readonly" Session.constant fun name s => { s with constant := name :: s.constant }

def localVariables : Utility := fun arguments => do
  if !(← get).isInFunction then fail "not in a function"
  for a in arguments do
    let (name, value?) := assignment a
    checkName name
    modify fun s => { s with locals := (name, s.vars.find? name) :: s.locals }
    if let some value := value? then assign name value
  return 0

def unset : Utility := fun arguments => do
  let (asked, names) ← options "vf" "" arguments
  for name in names do
    if (asked.getLast?.map Prod.fst) == some 'f' then
      modify fun s => { s with functions := s.functions.filter fun e => e.1 != name }
    else
      unassign name
      modify fun s => { s with exported := s.exported.filter (· != name) }
  return 0

/-! ### Options and arguments -/

def setArguments (arguments : List String) : Eval Unit :=
  modify fun s => { s with arguments, cursor := .start }

/-- Turns an option on or off that is given by its name, or lists the options without one. -/
def turnNamed (isOn : Bool) : Option String → Eval Unit
  | some name => do
    if Options.names.contains name then
      modify fun s => { s with options := s.options.turn isOn name }
    else fail s!"Illegal option -o {name}"
  | none => do
    let options := (← get).options
    if isOn then printLine "Current option settings"
    for line in if isOn then options.listing else options.commands do printLine line

/-- Turns the options of letters on or off; some are named by the arguments that come next, the
rest of which is given. -/
def turnLetters (isOn : Bool) : List Char → List String → Eval (List String)
  | [], rest => return rest
  | 'o' :: letters, rest => do
    turnNamed isOn rest.head?
    turnLetters isOn letters rest.tail
  | letter :: letters, rest => do
    match Options.ofLetter? letter with
    | some name => modify fun s => { s with options := s.options.turn isOn name }
    | none => fail s!"Illegal option -{letter}"
    turnLetters isOn letters rest

/-- Turns options on or off. What follows them are the new arguments, if there are any. `fuel`
bounds their number. -/
def setOptions : Nat → List String → Eval Unit
  | 0, _ => return ()
  | _, [] => return ()
  | fuel + 1, a :: rest => do
    match a.toList with
    | ['-', '-'] => setArguments rest
    | ['-'] =>
      modify fun s => { s with options := (s.options.turn false "xtrace").turn false "verbose" }
      if !rest.isEmpty then setArguments rest
    | '-' :: letters => setOptions fuel (← turnLetters true letters rest)
    | '+' :: letters => setOptions fuel (← turnLetters false letters rest)
    | _ => setArguments (a :: rest)

def set : Utility := fun arguments => do
  if arguments.isEmpty then listVariables "" (← get).vars.names
  else setOptions (arguments.length + 1) arguments
  return 0

def shift : Utility := fun arguments => do
  let n ← match arguments with
    | a :: _ => number a
    | [] => pure 1
  let given := (← get).arguments
  if n ≤ given.length then
    setArguments (given.drop n)
    return 0
  else fail "can't shift that many"

def nextOption : Utility := fun arguments => do
  match arguments with
  | known :: name :: given =>
    let s ← get
    let words := if given.isEmpty then s.arguments else given
    let (found, cursor) := s.cursor.step known.toList words
    let isQuiet := known.startsWith ":"
    let refuse := fun (letter mark : Char) (message : String) => do
      if isQuiet then assign "OPTARG" (String.singleton letter)
      else
        complain (message ++ String.singleton letter ++ if mark == ':' then " option" else "")
        unassign "OPTARG"
      return if isQuiet then mark else '?'
    let letter ← match found with
      | .option letter value => do
        assign "OPTARG" value
        pure letter
      | .illegal letter => refuse letter '?' "Illegal option -"
      | .incomplete letter => refuse letter ':' "No arg for -"
      | .finished => pure '?'
    assign "OPTIND" (toString cursor.next)
    assign name (String.singleton letter)
    modify fun s => { s with cursor }
    return if found = .finished then 1 else 0
  | _ => fail "Usage: getopts optstring var [arg...]"

/-! ### Input -/

/-- The characters of a line, those after a backslash as quoted. -/
def unescaped : List Char → Fragment.Field
  | '\\' :: c :: rest => (c, true) :: unescaped rest
  | c :: rest => (c, false) :: unescaped rest
  | [] => []

/-- Takes a line; a backslash at its end joins the next one to it. -/
def joinedLine : Nat → Eval (List Char × Bool)
  | 0 => return ([], false)
  | fuel + 1 => do
    let (octets, isWhole) ← takeLine
    let line := (Octets.text octets).toList
    if line.getLast? == some '\\' && isWhole then
      let (next, isWhole) ← joinedLine fuel
      return (line.dropLast ++ next, isWhole)
    else return (line, isWhole)

/-- The values of a number of names: fields of a line, and for the last name all that is left. -/
def distribute (separators : List Char) : Nat → Fragment.Field → List String
  | 0, _ => []
  | n + 1, line =>
    let separates := fun c : Glob.Marked => !c.2 && separators.contains c.1
    let isBlank := fun c : Glob.Marked => separates c && Fragment.isFieldBlank c.1
    let start := line.dropWhile isBlank
    let textOf := fun s : Fragment.Field => String.ofList (s.map Prod.fst)
    if n = 0 then [textOf (start.reverse.dropWhile isBlank).reverse]
    else
      let word := start.takeWhile fun c => !separates c
      let rest := (start.drop word.length).dropWhile isBlank
      let rest := match rest with
        | c :: after => if separates c then after else rest
        | [] => rest
      textOf word :: distribute separators n rest

def read : Utility := fun arguments => do
  let (asked, names) ← options "r" "p" arguments
  if names.isEmpty then fail "arg count"
  let (line, isWhole) ← if asked.any fun o => o.1 == 'r' then do
      let (octets, isWhole) ← takeLine
      pure ((Octets.text octets).toList.map (·, false), isWhole)
    else do
      let (line, isWhole) ← joinedLine ((← get).input.length + 1)
      pure (unescaped line, isWhole)
  let values := distribute (← Expansion.separators) names.length line
  for (name, value) in names.zip values do assign name value
  return if isWhole then 0 else 1

/-! ### Signals -/

/-- Sets what is done at signals; nothing for what a signal does by itself. -/
def setTraps (action? : Option String) : List String → Eval Nat
  | [] => return 0
  | name :: rest => do
    match Signal.number? 0 name with
    | some n =>
      let signal := Signal.name n
      modify fun s =>
        let others := s.traps.filter fun e => e.1 != signal
        { s with traps := (action?.map (Bindings.bind others signal)).getD others }
      setTraps action? rest
    | none =>
      complain s!"trap: {name}: bad trap"
      return 1

def trap : Utility := fun arguments => do
  match ← options "" "" arguments with
  | (_, []) =>
    let traps := (← get).traps
    for name in Signal.names do
      if let some action := traps.find? name then printLine s!"trap -- {quoted action} {name}"
    return 0
  | (_, first :: rest) =>
    if rest.isEmpty || (Signal.ofNumeral? first).isSome then setTraps none (first :: rest)
    else setTraps (if first == "-" then none else some first) rest

/-! ### Permissions -/

def permissions (mask : Nat) : String := String.ofList <|
  ([(4, 'r'), (2, 'w'), (1, 'x')].filter fun p => mask / p.1 % 2 == 0).map Prod.snd

def clause? (mask : Nat) (clause : List Char) : Option Nat :=
  let who := clause.takeWhile "ugoa".toList.contains
  let what := clause.drop (who.length + 1)
  let value := fun letter => if letter == 'r' then 4 else if letter == 'w' then 2 else 1
  let given := (what.eraseDups.map value).foldl (· + ·) 0
  let isMeant := fun c => who.isEmpty || who.contains 'a' || who.contains c
  let change := fun (sign : Char) (letter : Char) (left : Nat) =>
    if !isMeant letter then left
    else if sign == '=' then 7 - given
    else if sign == '+' then left &&& (7 - given)
    else left ||| given
  match clause[who.length]? with
  | some sign =>
    if "=+-".toList.contains sign && what.all "rwx".toList.contains then
      some (change sign 'u' (mask / 64 % 8) * 64 + change sign 'g' (mask / 8 % 8) * 8 +
        change sign 'o' (mask % 8))
    else none
  | none => none

/-- The mask that an argument stands for: octal digits, or clauses that change a mask. -/
def maskOf (mask : Nat) (argument : String) : Eval Nat := do
  if argument.toList.head?.any Char.isDigit then
    if argument.toList.all fun c => '0' ≤ c && c ≤ '7' then
      return Escape.octalValue argument.toList % 512
    else fail s!"Illegal number: {argument}"
  else
    match (argument.splitOn ",").foldlM (fun m c => clause? m c.toList) mask with
    | some mask => return mask
    | none => fail s!"Illegal mode: {argument}"

def mask : Utility := fun arguments => do
  let (asked, operands) ← options "S" "" arguments
  let mask := (← get).mask
  match operands with
  | argument :: _ =>
    let mask ← maskOf mask argument
    modify fun s => { s with mask }
  | [] =>
    if asked.isEmpty then
      let digits := String.ofList (Nat.toDigits 8 mask)
      printLine ("".pushn '0' (4 - digits.length) ++ digits)
    else
      let (user, group) := (permissions (mask / 64), permissions (mask / 8))
      printLine s!"u={user},g={group},o={permissions mask}"
  return 0

/-! ### The table -/

def constantly (status : Nat) : Utility := fun _ => return status

def table : List (String × Utility) :=
  [(":", constantly 0), ("[", bracket), ("cd", changeDirectory), ("chdir", changeDirectory),
    ("echo", echo), ("export", exportVariables), ("false", constantly 1), ("getopts", nextOption),
    ("jobs", constantly 0), ("local", localVariables), ("printf", printf),
    ("pwd", workingDirectory), ("read", read), ("readonly", readonlyVariables), ("set", set),
    ("shift", shift), ("test", test), ("trap", trap), ("true", constantly 0), ("umask", mask),
    ("unset", unset)]

end Runbook.Shell.Builtin
