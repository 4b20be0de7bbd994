import Runbook.Decimal.Shortest
import Runbook.Shell.Launch
import Runbook.Run.LineBuffer
import Runbook.Run.Task
import Runbook.System.Machine

/-!
The execution of commands: the lines of a command are taken from what its program writes, shown as
they arrive where that is asked for, and a command that takes too long is given up.
-/

namespace Runbook

/-- What the execution of a command asks: something of the system, or that something is shown. -/
inductive ExecutionCall where
  | system (call : SystemCall)
  | display (display : Display)
  deriving DecidableEq, Repr

abbrev ExecutionCall.Reply : ExecutionCall → Type
  | .system call => call.Reply
  | .display _ => Unit

abbrev ExecutionCall.interface : Interface := ⟨ExecutionCall, ExecutionCall.Reply⟩

abbrev Execution (α : Type) := Program ExecutionCall.interface α

/-- What commands run in: the directory that paths are seen from, the variables, the number of the
next process, and what is left of the input. -/
structure ExecutionScope where
  current : FilePath
  environment : Bindings String
  process : Nat
  input : List UInt8
  /-- The bound of the work of a command that knows no end. -/
  fuel : Nat
  deriving DecidableEq, Repr

namespace Execution

def system (c : SystemCall) : Execution c.Reply :=
  Program.call (I := ExecutionCall.interface) (.system c)

def display (d : Display) : Execution Unit :=
  Program.call (I := ExecutionCall.interface) (.display d)

/-- The lines of both streams so far, and what is not a line yet. -/
structure Transcript where
  stdout : List String
  stderr : List String
  pendingOutput : LineBuffer
  pendingErrors : LineBuffer
  deriving DecidableEq, Repr

namespace Transcript

def empty : Transcript := ⟨[], [], .empty, .empty⟩

def addLines (t : Transcript) (stream : OutputStream) (lines : List String) : Transcript :=
  match stream with
  | .stdout => { t with stdout := t.stdout ++ lines }
  | .stderr => { t with stderr := t.stderr ++ lines }

/-- Takes octets: the lines that they complete, and the transcript with these. -/
def push (t : Transcript) (stream : OutputStream) (octets : List UInt8) :
    List String × Transcript :=
  match stream with
  | .stdout =>
    let (lines, pendingOutput) := t.pendingOutput.push octets
    (lines, { t.addLines .stdout lines with pendingOutput })
  | .stderr =>
    let (lines, pendingErrors) := t.pendingErrors.push octets
    (lines, { t.addLines .stderr lines with pendingErrors })

def lastLine? (t : Transcript) (stream : OutputStream) : Option String :=
  match stream with
  | .stdout => t.pendingOutput.finish.1
  | .stderr => t.pendingErrors.finish.1

end Transcript

def showLines (mode : OutputMode) (stream : OutputStream) (lines : List String) :
    Execution Unit := do
  if mode = .realtime then
    for line in lines do display (.outputLine stream line)

def wait : SystemCall → Option Duration
  | .sleep d => some d
  | _ => none

/-- Follows a program up to a time, if there is one, with the lines that it writes. Nothing is its
result if it is not done by then. -/
def follow {α : Type} (mode : OutputMode) (deadline : Option Timestamp) (t : Transcript) :
    Program Shell.ShellCall.interface α → Execution (Option α × Transcript)
  | .halted .bound => if deadline.isSome then return (none, t) else .halted .bound
  | .halted .overflow => .halted .overflow
  | .done a => do
    match deadline with
    | none => return (some a, t)
    | some limit => return (if (← system .now).isBefore limit then some a else none, t)
  | .perform (.emit stream octets) next => do
    let isLate ← match deadline with
      | none => pure false
      | some limit => do pure !(← system .now).isBefore limit
    if isLate then return (none, t)
    else
      let (lines, t) := t.push stream octets
      showLines mode stream lines
      follow mode deadline t (next ())
  | .perform (.system c) next => do
    match deadline with
    | none => follow mode deadline t (next (← system c))
    | some limit =>
      let now ← system .now
      if !now.isBefore limit then return (none, t)
      else
        let left := now.durationUntil limit
        if (wait c).any fun d => left.nanoseconds ≤ d.nanoseconds then
          system (.sleep left)
          return (none, t)
        else follow mode deadline t (next (← system c))

def timeoutMessage (limit : Duration) : String :=
  s!"Command timed out after {plainNumberText limit.toFloat} seconds"

/-- What a program came to, as an outcome without its duration. -/
def outcome (t : Transcript) (timedOut : Bool) (ending : Option Shell.Ending) : CommandOutcome where
  success := !timedOut && ending = some (.exited 0)
  exitCode := match ending with
    | some (.exited code) => some code
    | _ => none
  stdout := t.stdout
  stderr := t.stderr
  timedOut
  duration := .zero

def launch (r : CommandRequest) (scope : ExecutionScope) : Shell.Launch :=
  let (program, arguments) := Shell.invocation r.shell (scope.environment.find? "SHELL") r.command
  { program, arguments
    directory := (r.directory.map (FilePath.join scope.current)).getD scope.current
    environment := scope.environment
    process := scope.process
    input := scope.input }

/-- Carries out a request without showing that it begins and ends. -/
def carryOut (r : CommandRequest) (scope : ExecutionScope) :
    Execution (CommandOutcome × List UInt8) := do
  let start ← system .now
  let deadline := r.timeout.map start.later
  let (result, t) ← follow r.mode deadline .empty ((launch r scope).run scope.fuel)
  match result with
  | some (.error e) =>
    let o := CommandOutcome.notStarted e.message
    showLines r.mode .stderr o.stderr
    return (o, scope.input)
  | some (.ok (ending, input)) =>
    let last := fun stream => (t.lastLine? stream).toList
    showLines r.mode .stdout (last .stdout)
    showLines r.mode .stderr (last .stderr)
    let t := (t.addLines .stdout (last .stdout)).addLines .stderr (last .stderr)
    return (outcome t false (some ending), input)
  | none =>
    let message := timeoutMessage (r.timeout.getD .zero)
    showLines r.mode .stderr [message]
    return (outcome (t.addLines .stderr [message]) true none, scope.input)

/-- Carries out a request. What is left of the input comes with the outcome. -/
def command (r : CommandRequest) (scope : ExecutionScope) :
    Execution (CommandOutcome × List UInt8) := do
  if r.mode = .realtime then display (.stepStarted r.label)
  let start ← system .now
  let (o, input) ← carryOut r scope
  let duration := start.durationUntil (← system .now)
  if r.mode = .realtime then display (.stepFinished r.label o.success duration)
  return ({ o with duration }, input)

def machineHost : Host ExecutionCall.interface (Machine × List Display)
  | (m, shown), .system c =>
    let (reply, m) := m.reply c
    (reply, (m, shown))
  | (m, shown), .display d => ((), (m, shown ++ [d]))

/-- Runs an execution on a machine to its end, with what is shown meanwhile. -/
def onMachine {α : Type} (e : Execution α) (m : Machine) : Option (α × Machine × List Display) :=
  e.finish machineHost (m, [])

end Execution

end Runbook
