import Runbook.Shell.Builtin

/-!
What the names of commands stand for: words of the language, commands of the shell, functions, and
programs in the directories that are searched.
-/

namespace Runbook.Shell.Lookup

open Eval

def programDirectories : List String := ["/bin", "/usr/bin"]

def shellNames : List String := ["sh", "dash", "bash"]

def programName (command : String) : String :=
  match programDirectories.find? (fun d => command.startsWith (d ++ "/")) with
  | some directory => (command.drop (directory.length + 1)).toString
  | none => command

def plainCommand? (name : String) : Option Utility :=
  let isPlain := ["[", "echo", "false", "printf", "pwd", "test", "true"].contains name
  (Utility.find? name).or (if isPlain then Builtin.table.lookup name else none)

def isProgram (name : String) : Bool :=
  shellNames.contains name || name == "env" || (plainCommand? name).isSome

def programPath? (command : String) : Eval (Option String) := do
  if !isProgram (programName command) then return none
  else if command.toList.contains '/' then return some command
  else
    let path := ((← get).vars.find? "PATH").getD ""
    return ((path.splitOn ":").find? programDirectories.contains).map (· ++ "/" ++ command)

def isBuiltin (name : String) : Bool :=
  (Builtin.table.lookup name).isSome || Lexicon.specialCommands.contains name ||
    ["command", "type", "wait", "kill", "fg", "bg", "alias", "unalias", "hash"].contains name

def complainOfMissing (command : String) : Eval Unit := do
  let kind ← if command.toList.contains '/' then system (.kind (← located command)) else pure none
  if kind.isSome || command.isEmpty then
    complainAt s!"{command}: Permission denied"
    setStatus (if command.isEmpty then 127 else 126)
  else
    complainAt s!"{command}: not found"
    setStatus 127

/-- What a name stands for: its kind in words, and its path or the name itself; nothing if it is not
the name of a command. -/
def meaning? (name : String) : Eval (Option (String × String)) := do
  let s ← get
  if Lexicon.keywords.contains name then return some ("a shell keyword", name)
  else if name.toList.contains '/' then
    let isThere := (← programPath? name).isSome || (← system (.kind (← located name))).isSome
    return if isThere then some (name, name) else none
  else if Lexicon.specialCommands.contains name then
    return some ("a special shell builtin", name)
  else if (s.functions.lookup name).isSome then return some ("a shell function", name)
  else if isBuiltin name then return some ("a shell builtin", name)
  else match s.found.find? name with
    | some path => return some ("a tracked alias for " ++ path, path)
    | none => return (← programPath? name).map fun path => (path, path)

def describe (isLong : Bool) (name : String) : Eval Nat := do
  match ← meaning? name with
  | some (kind, path) =>
    printLine (if isLong then s!"{name} is {kind}" else path)
    return 0
  | none =>
    if isLong then printLine s!"{name}: not found"
    return 127

/-- Looks for programs, forgets those that were found, or tells of them. -/
def findPrograms : Utility := fun arguments => do
  let (asked, names) ← Builtin.options "r" "" arguments
  if !asked.isEmpty then modify fun s => { s with found := [] }
  else if names.isEmpty then for (_, path) in (← get).found do printLine path
  let codes ← names.mapM fun name => do
    if isBuiltin name then return 0
    match ← programPath? name with
    | some path =>
      modify fun s => { s with found := s.found.bind name path }
      return 0
    | none =>
      complainAt s!"{name}: not found"
      return 1
  return codes.foldl max 0

end Runbook.Shell.Lookup
