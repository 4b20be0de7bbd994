import Runbook.Text.Blank
import Runbook.Duration
import Runbook.FilePath

/-!
Commands: what is asked of a shell, which step of a run it is asked for, and what came of it.
-/

namespace Runbook

/-- A step or a branch of a run; steps, branches and their indices are counted from zero. -/
structure StepLabel where
  index : Nat
  branch : Option Nat
  line : Option Nat
  /-- The kind of the step: the key that names it in a document. -/
  kind : String
  /-- The command or the message of the step. -/
  text : String
  /-- Whether the step stands under a condition. -/
  conditional : Bool
  deriving DecidableEq, Repr

def StepLabel.name (l : StepLabel) : String :=
  s!"Step {l.index + 1}" ++ (l.branch.map fun b => s!" → branch {b + 1}").getD "" ++
    (l.line.map fun n => s!" (line {n})").getD ""

/-- Whether the lines of a command are shown as they arrive, or together when it is over. -/
inductive OutputMode where
  | realtime | buffered
  deriving DecidableEq, Repr

inductive OutputStream where
  | stdout | stderr
  deriving DecidableEq, Repr

structure CommandRequest where
  command : String
  shell : Option (List String)
  directory : Option FilePath
  timeout : Option Duration
  mode : OutputMode
  label : StepLabel
  deriving DecidableEq, Repr

structure CommandOutcome where
  success : Bool
  /-- The exit code, if the command came to its own end. -/
  exitCode : Option Int
  stdout : List String
  stderr : List String
  timedOut : Bool
  duration : Duration
  deriving DecidableEq, Repr

namespace CommandOutcome

/-- Why a command failed: the time limit, its exit code, or else its last line of errors. -/
def failureReason (o : CommandOutcome) : String :=
  match o.timedOut, o.stderr.getLast?, o.exitCode with
  | true, some line, _ => line
  | _, _, some code => s!"Command exited with code {code}"
  | _, some line, none => line
  | _, none, none => "Command failed"

def notStarted (cause : String) : CommandOutcome where
  success := false
  exitCode := none
  stdout := []
  stderr := ["Error: " ++ cause]
  timedOut := false
  duration := .zero

end CommandOutcome

namespace Shell

def defaultProgram : String := "/bin/sh"

/-- The program and its arguments that run a command: the shell asked for, or else the user's shell
with the option `-c`. -/
def invocation (shell : Option (List String)) (userShell : Option String) (command : String) :
    String × List String :=
  match shell with
  | some (program :: options) => (program, options ++ [command])
  | _ =>
    match userShell with
    | some program => (if isBlank program then defaultProgram else program, ["-c", command])
    | none => (defaultProgram, ["-c", command])

end Shell

end Runbook
