import Runbook.Text.Blank
import Runbook.StatePaths

/-!
The reading of command lines: options and operands by a description of the commands that there are.
A line is read from left to right. A parameter whose value stands in an argument of its own is
checked when the next one begins or the line ends, and one with its value beside it at once.
-/

namespace Runbook.Console

/-- Why a command line is refused; help and the version are asked for in the same way. -/
inductive UsageError where
  | help (commands : List String)
  | version
  | helpOnMissing
  | missingSubcommand
  | missingOperand
  | unknownArgument
  | invalidSubcommand
  | invalidValue
  | invalidSetting
  | conflict
  | tooManyValues
  deriving DecidableEq, Repr

/-- What a parameter takes: nothing, a text, a path that is not empty, or a name with a value. -/
inductive ValueKind where
  | flag | text | path | setting
  deriving DecidableEq, Repr

/-- An option, or an operand if it has no name to be called by. -/
structure Parameter where
  id : String
  short : Option Char
  long : Option String
  kind : ValueKind
  about : String
  deriving DecidableEq, Repr

def helpName : String := "help"

structure CommandForm where
  name : String
  about : String
  options : List Parameter
  operand : Option Parameter
  commands : List CommandForm

/-- What a command line gives: the commands, and the parameters of the last of them before those of
the ones around it. -/
structure Given where
  commands : List String
  values : List (String × String)
  deriving DecidableEq, Repr

/-! ### Settings of variables -/

/-- A name and a value that are joined by an equals sign. -/
def setting? (raw : String) : Option (String × String) :=
  let name := raw.toList.takeWhile (· ≠ '=')
  let rest := raw.toList.drop name.length
  let trimmedName := trimmed (String.ofList name)
  if rest.isEmpty || trimmedName.isEmpty then none
  else some (trimmedName, String.ofList (rest.drop 1))

def settingFault (raw : String) : String := s!"expected KEY=VALUE, got \"{raw}\""

/-! ### Reading -/

structure Progress where
  values : List (String × String)
  /-- The parameter that was begun last, and its value. -/
  pending : Option (Parameter × Option String)
  deriving DecidableEq, Repr

namespace Progress

def empty : Progress := ⟨[], none⟩

def take (p : Progress) (parameter : Parameter) (value : Option String) :
    Except UsageError Progress :=
  let isTaken := p.values.any fun v => v.1 == parameter.id
  match parameter.kind, value with
  | .flag, _ =>
    if isTaken then .error .conflict
    else .ok { p with values := p.values ++ [(parameter.id, "")] }
  | _, none => .error .invalidValue
  | kind, some v =>
    if isTaken && kind ≠ .setting then .error .conflict
    else if kind = .path && v.isEmpty then .error .invalidValue
    else if kind = .setting && (setting? v).isNone then .error .invalidSetting
    else .ok { p with values := p.values ++ [(parameter.id, v)] }

/-- Takes the parameter that was begun last. -/
def settle (p : Progress) : Except UsageError Progress :=
  match p.pending with
  | some (parameter, value) => { p with pending := none }.take parameter value
  | none => .ok p

def begin (p : Progress) (parameter : Parameter) (value : Option String) :
    Except UsageError Progress := do
  let p ← p.settle
  return { p with pending := some (parameter, value) }

def takeNext (p : Progress) (parameter : Parameter) (value : Option String) :
    Except UsageError Progress := do
  let p ← p.settle
  p.take parameter value

/-- Asks for something else than a command, after what was begun last. -/
def ask (p : Progress) (request : UsageError) : Except UsageError Progress := do
  let _ ← p.settle
  throw request

def awaiting? (p : Progress) : Option Parameter :=
  match p.pending with
  | some (parameter, none) => some parameter
  | _ => none

end Progress

namespace CommandForm

/-- Reads an option that is called by its long name, with a value after an equals sign if it has
one. -/
def readLong (isFirst : Bool) (path : List String) (form : CommandForm) (p : Progress)
    (argument : String) : Except UsageError Progress :=
  let body := argument.toList.drop 2
  let name := String.ofList (body.takeWhile (· ≠ '='))
  let value? := if body.contains '=' then
    some (String.ofList (body.drop (name.length + 1))) else none
  if name == "help" then if value?.isNone then p.ask (.help path) else .error .tooManyValues
  else if name == "version" && isFirst then
    if value?.isNone then p.ask .version else .error .tooManyValues
  else match form.options.find? fun o => o.long == some name, value? with
    | none, _ => .error .unknownArgument
    | some parameter, none =>
      if parameter.kind = .flag then p.takeNext parameter none else p.begin parameter none
    | some parameter, some value =>
      if parameter.kind = .flag then .error .tooManyValues else p.takeNext parameter value

/-- Reads options that are called by their letters; the rest after one that takes a value is the
value. -/
def readShort (isFirst : Bool) (path : List String) (form : CommandForm) :
    Progress → List Char → Except UsageError Progress
  | p, [] => .ok p
  | p, c :: rest =>
    if c == 'h' then p.ask (.help path)
    else if c == 'V' && isFirst then p.ask .version
    else match form.options.find? fun o => o.short == some c with
      | none => .error .unknownArgument
      | some parameter =>
        if parameter.kind = .flag then do
          readShort isFirst path form (← p.takeNext parameter none) rest
        else match rest with
          | [] => p.begin parameter none
          | '=' :: value => p.takeNext parameter (some (String.ofList value))
          | value => p.takeNext parameter (some (String.ofList value))

def readOperand (form : CommandForm) (p : Progress) (argument : String) (afterMark : Bool) :
    Except UsageError Progress :=
  let isUsed := fun o : Parameter => p.values.any (fun v => v.1 == o.id) ||
    p.pending.any fun q => q.1.id == o.id
  match form.operand.filter fun o => !isUsed o with
  | some operand => p.begin operand (some argument)
  | none =>
    let isName := argument == helpName || form.commands.any fun c => c.name == argument
    if form.commands.isEmpty || (afterMark && isName) then .error .unknownArgument
    else .error .invalidSubcommand

/-- Whether names lead to a command; one with commands of its own has another that helps. -/
def leads (form : CommandForm) : List String → Bool
  | [] => true
  | name :: rest =>
    match form.commands.find? fun c => c.name == name with
    | some inner => inner.leads rest
    | none => name == helpName && !form.commands.isEmpty && rest.isEmpty

/-- What a line gives that ends at a command. `home` is the state directory that is set otherwise,
which may not be empty. -/
def finish (form : CommandForm) (home : Option String) (p : Progress) :
    Except UsageError Given := do
  let p ← p.settle
  let isSet := p.values.any fun v => v.1 == "home"
  if home = some "" && !isSet then throw .invalidValue
  else if !form.commands.isEmpty then
    throw (if p.values.isEmpty && home.isNone then .helpOnMissing else .missingSubcommand)
  else match form.operand with
    | some operand =>
      if p.values.any fun v => v.1 == operand.id then return ⟨[], p.values⟩
      else throw .missingOperand
    | none => return ⟨[], p.values⟩

/-- What a line gives whose command has been followed by another. -/
def finishOuter (home : Option String) (p : Progress) (name : String) (inner : Given) :
    Except UsageError Given := do
  let p ← p.settle
  if home = some "" && !p.values.any fun v => v.1 == "home" then throw .invalidValue
  else return ⟨name :: inner.commands, inner.values ++ p.values⟩

/-- Whether an argument calls options by their letters. -/
def isShort (argument : String) : Bool :=
  argument.length > 1 && argument.toList.head? == some '-'

/-- Reads the arguments of a command; after a mark of two hyphens there are operands only. -/
def read (home : Option String) (path : List String) (form : CommandForm) (p : Progress)
    (afterMark : Bool) : List String → Except UsageError Given
  | [] => form.finish home p
  | argument :: rest =>
    if afterMark then do
      read home path form (← form.readOperand p argument true) true rest
    else if argument == "--" then read home path form p true rest
    else if argument.startsWith "--" then do
      read home path form (← form.readLong path.isEmpty path p argument) false rest
    else if isShort argument then do
      let letters := argument.toList.drop 1
      read home path form (← form.readShort path.isEmpty path p letters) false rest
    else match p.awaiting? with
      | some parameter =>
        read home path form { p with pending := some (parameter, some argument) } false rest
      | none =>
        if argument == helpName && !form.commands.isEmpty then
          .error (if form.leads rest then .help (path ++ rest) else .invalidSubcommand)
        else match form.commands.find? fun c => c.name == argument with
          | some inner => do
            let given ← read home (path ++ [argument]) inner .empty false rest
            finishOuter home p argument given
          | none => do
            read home path form (← form.readOperand p argument false) false rest

end CommandForm

end Runbook.Console
