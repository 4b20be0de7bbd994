import Runbook.Shell.Evaluation

/-!
Programs that are launched on their own, with a directory and variables, and how they end.
-/

namespace Runbook.Shell

/-- How a process ends: with a code of its own, or by a signal. -/
inductive Ending where
  | exited (code : Nat) | killed (signal : Nat)
  deriving DecidableEq, Repr

structure Launch where
  program : String
  arguments : List String
  directory : FilePath
  environment : Bindings String
  /-- The number of the process that it becomes. -/
  process : Nat
  input : List UInt8
  deriving DecidableEq, Repr

def plainText (word : Word) : String := String.join (word.map fun
  | .text s _ => s
  | _ => "")

/-- What a script does at a signal, as its own commands say it; nothing if they do not. -/
def Script.trap? (script : Script) (signal : Nat) : Option String :=
  (script.filterMap fun
    | .simple _ _ words _ =>
      match words.map plainText with
      | "trap" :: action :: signals =>
        if (signals.filterMap (Signal.number? 0)).contains signal then some action else none
      | _ => none
    | _ => none).getLast?

def Script.heedsTermination (text : String) : Bool :=
  match Script.read text with
  | .error _ => true
  | .ok script => (script.trap? Signal.terminate).all fun action =>
    action == "-" || action.startsWith "exit"

namespace Launch

open Eval

def session (l : Launch) : Session where
  name := Octets.spell l.program
  arguments := []
  vars := Bindings.bind
    (l.environment.map fun (name, value) => (Octets.spell name, Octets.spell value))
    "PWD" (Octets.spell l.directory)
  exported := "PWD" :: l.environment.names.map Octets.spell
  constant := []
  locals := []
  functions := []
  status := 0
  captured := 0
  context := ""
  isInFunction := false
  mask := 18
  directory := l.directory
  process := l.process - 1
  targets := .ofPairs [(0, .source 0), (1, .outer .stdout), (2, .outer .stderr)]
  buffers := []
  sources := [l.input]
  traps := []
  pending := []
  isPart := false
  options := ⟨[]⟩
  cursor := .start
  found := []
  jobs := []
  started := 0
  finished := []
  untold := []
  loops := 0
  line := 1

/-- Why a program cannot be launched, if it cannot: its directory, or itself. -/
def refusal? (l : Launch) : Eval (Option SystemError) := do
  match ← system (.kind l.directory) with
  | none => return some .notFound
  | some .file => return some .notDirectory
  | some .directory =>
    if Lookup.isProgram (Lookup.programName l.program) then return none
    else if l.program.toList.contains '/' then
      match ← system (.kind (← located (Octets.spell l.program))) with
      | none => return some .notFound
      | some _ => return some .notPermitted
    else return some .notFound

def body (l : Launch) (fuel : Nat) : Eval Ending := do
  let program := Octets.spell l.program
  let arguments := l.arguments.map Octets.spell
  if Lookup.shellNames.contains (Lookup.programName program) then
    match ← Evaluation.shell fuel program arguments with
    | some signal => return .killed signal
    | none => return .exited (← get).status
  else
    Evaluation.external fuel program arguments
    return .exited (← get).status

/-- Launches a program: how it ends, with what is left of its input, or why it does not begin. -/
def run (l : Launch) (fuel : Nat) :
    Program ShellCall.interface (Except SystemError (Ending × List UInt8)) := do
  let act : Eval (Except SystemError (Ending × List UInt8)) := do
    match ← refusal? l with
    | some e => return .error e
    | none => return .ok (← body l fuel, (← get).input)
  let (result, s) ← act.run l.session
  match result with
  | .ok result => return result
  | .error .exit => return .ok (.exited (s.status % 256), s.input)
  | .error .failed => return .ok (.exited s.status, s.input)
  | .error (.killed signal) => return .ok (.killed signal, s.input)

end Launch

end Runbook.Shell
