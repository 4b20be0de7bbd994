import Runbook.Shell.Octets
import Runbook.System.Call
import Runbook.Run.Command
import Runbook.Shell.Lexicon
import Runbook.Shell.Arguments
import Runbook.Shell.Script

/-!
Sessions of the command shell: its variables, where its output goes, and what it asks of the system.
All texts of a session are texts of octets; paths of the system are not.
-/

namespace Runbook.Shell

/-- What the shell asks: something of the system, or that output is passed on. -/
inductive ShellCall where
  | system (call : SystemCall)
  | emit (stream : OutputStream) (octets : List UInt8)
  deriving DecidableEq, Repr

abbrev ShellCall.Reply : ShellCall → Type
  | .system call => call.Reply
  | .emit .. => Unit

abbrev ShellCall.interface : Interface := ⟨ShellCall, ShellCall.Reply⟩

/-- Where a numbered stream leads: out of the shell, nowhere, into a text that is kept by the
session, into a file, or to a text that is read. -/
inductive Target where
  | outer (stream : OutputStream)
  | nowhere
  | buffer (index : Nat)
  | file (path : FilePath)
  | source (index : Nat)
  deriving DecidableEq, Repr

/-- Commands that are to be run beside the script, as a process of its own, with what they see of
the session. -/
structure Job where
  process : Nat
  command : Command
  vars : Bindings String
  arguments : List String
  directory : FilePath
  targets : Bindings Target Nat

structure Session where
  /-- The name that the shell goes by in its messages. -/
  name : String
  arguments : List String
  vars : Bindings String
  /-- The variables that commands see, and those that keep their values. -/
  exported : List String
  constant : List String
  /-- What variables were before the function that is being run, where it has them as its own. -/
  locals : List (String × Option String)
  functions : List (String × Command)
  /-- The exit code of the last command. -/
  status : Nat
  /-- The exit code of the commands whose output was put in place last. -/
  captured : Nat
  /-- The command of the shell that is being run, as complaints name it. -/
  context : String
  isInFunction : Bool
  /-- The permissions that new files do not get. -/
  mask : Nat
  directory : FilePath
  process : Nat
  targets : Bindings Target Nat
  buffers : List (Array UInt8)
  /-- What is left to read of each text. -/
  sources : List (List UInt8)
  /-- What is done at signals; an empty text for a signal that is not heeded. -/
  traps : Bindings String
  /-- The signals that the shell got from parts of it that do not end with it. -/
  pending : List Nat
  /-- Whether this is a part of a shell that does not change it. -/
  isPart : Bool
  options : Options
  /-- Where the reading of the options of arguments stands. -/
  cursor : Cursor
  /-- The programs that were found by their names. -/
  found : Bindings String
  /-- The commands beside the script that are yet to be run. -/
  jobs : List Job
  /-- How many commands were run beside the script, and the exit codes of those that ended. -/
  started : Nat
  finished : List (Nat × Nat)
  /-- The commands beside the script that signals ended, as long as that is not told. -/
  untold : List (Nat × Nat)
  /-- How many loops are being run. -/
  loops : Nat
  line : Nat

def Session.input (s : Session) : List UInt8 :=
  match s.targets.find? 0 with
  | some (.source index) => s.sources.getD index []
  | _ => []

/-- A session with another text left to read. -/
def Session.leave (s : Session) (octets : List UInt8) : Session :=
  match s.targets.find? 0 with
  | some (.source index) => { s with sources := s.sources.set index octets }
  | _ => s

def Session.open (s : Session) (stream : Nat) (octets : List UInt8) : Session :=
  { s with
    sources := s.sources ++ [octets]
    targets := s.targets.bind stream (.source s.sources.length) }

/-- The variables that a shell begins with: those that it is given, and its own. -/
def Session.initial (given : Bindings String) : Bindings String :=
  Bindings.union given
    [("IFS", " \t\n"), ("OPTIND", "1"), ("PS1", "# "), ("PS2", "> "), ("PS4", "+ ")]

/-- Why the shell ends before its script does: it is told to, one of its commands cannot go on, or a
signal ends it. -/
inductive Abort where
  | exit | failed | killed (signal : Nat)
  deriving DecidableEq, Repr

abbrev Eval (α : Type) := ExceptT Abort (StateT Session (Program ShellCall.interface)) α

namespace Eval

def call (c : ShellCall) : Eval c.Reply :=
  ExceptT.lift (StateT.lift (Program.call (I := ShellCall.interface) c))

def system (c : SystemCall) : Eval c.Reply := call (.system c)

def located (path : FilePath) : Eval FilePath := do
  if path.isEmpty then return path else return FilePath.join (← get).directory (Octets.read path)

/-- Runs an action, and after it another one, however the first one ends. -/
def followedBy {α : Type} (act : Eval α) (last : Eval Unit) : Eval α := do
  let result ← try
      let a ← act
      pure (Except.ok a)
    catch abort => pure (.error abort)
  last
  match result with
  | .ok a => return a
  | .error abort => throw abort

/-! ### Output -/

def appended (buffers : List (Array UInt8)) (index : Nat) (octets : List UInt8) :
    List (Array UInt8) :=
  buffers.modify index fun b => b ++ octets.toArray

def write (stream : Nat) (octets : List UInt8) : Eval Unit := do
  if octets.isEmpty then return ()
  match (← get).targets.find? stream with
  | some (.outer s) => call (.emit s octets)
  | some (.buffer index) => modify fun s => { s with buffers := appended s.buffers index octets }
  | some (.file path) =>
    let _ ← system (.append path (Text.Utf8.decode octets))
  | _ => return ()

def print (text : String) : Eval Unit := write 1 (Octets.ofText text)

def printLine (text : String) : Eval Unit := print (text ++ "\n")

/-- Writes a line to the stream of errors. -/
def complain (message : String) : Eval Unit := write 2 (Octets.ofText (message ++ "\n"))

/-- A complaint of the shell itself, with its name, the line of the script, and the command that is
being run. -/
def complainAt (message : String) : Eval Unit := do
  let s ← get
  complain s!"{s.name}: {s.line}: {s.context}{message}"

/-- Runs an action as the command of the shell that complaints name. -/
def named {α : Type} (name : String) (act : Eval α) : Eval α := do
  let context := (← get).context
  modify fun s => { s with context := name ++ ": " }
  act.followedBy (modify fun s => { s with context })

def setStatus (status : Nat) : Eval Unit := modify fun s => { s with status }

def exitWith {α : Type} (status : Nat) : Eval α := do
  modify fun s => { s with status }
  throw .exit

def fail {α : Type} (message : String) : Eval α := do
  complainAt message
  modify fun s => { s with status := 2 }
  throw .failed

/-! ### Variables -/

/-- Refuses the name of a variable that is none, or that is to keep its value. -/
def checkName (name : String) : Eval Unit := do
  if !Lexicon.isName name then fail s!"{name}: bad variable name"
  else if (← get).constant.contains name then fail s!"{name}: is read only"

/-- Binds a variable. The options of arguments are read anew where their place is bound. -/
def assign (name value : String) : Eval Unit := do
  checkName name
  modify fun s =>
    let exported := if s.options.isOn 'a' then name :: s.exported else s.exported
    let cursor := if name == "OPTIND" then ⟨max (value.toNat?.getD 1) 1, none⟩ else s.cursor
    { s with vars := s.vars.bind name value, exported, cursor }

def remove (name : String) : Eval Unit := modify fun s =>
  { s with vars := s.vars.filter fun e => e.1 != name }

def unassign (name : String) : Eval Unit := do
  checkName name
  remove name

def environment : Eval (Bindings String) := do
  let s ← get
  return s.vars.filter fun e => s.exported.contains e.1

/-! ### Input -/

def takeInput : Eval (List UInt8) := do
  let octets := (← get).input
  modify fun s => s.leave []
  return octets

def readFile (path : FilePath) : Eval (Except SystemError (List UInt8)) := do
  if path = "/dev/null" then return .ok []
  else if path = "/dev/stdin" then return .ok (← takeInput)
  else return (← system (.read (← located path))).map Text.Utf8.encode

def takeLine : Eval (List UInt8 × Bool) := do
  let octets := (← get).input
  let line := octets.takeWhile (· ≠ 10)
  modify fun s => s.leave (octets.drop (line.length + 1))
  return (line, line.length < octets.length)

end Eval

end Runbook.Shell
