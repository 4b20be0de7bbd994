import Runbook.Shell.Builtin

/-!
Commands that are run beside the script, as they are named, waited for and sent signals.
-/

namespace Runbook.Shell.Job

open Eval

/-- The process that a text names: by its number, or as a job by its place. -/
def processOf (text : String) : Eval Nat := do
  let s ← get
  match text.toList with
  | '%' :: place =>
    let last := if place.isEmpty || place == ['%'] || place == ['+'] then some s.started
      else Signal.numeral? (String.ofList place)
    match last.filter fun n => 0 < n && n ≤ s.started with
    | some n => return s.process + n
    | none => fail s!"No such job: {text}"
  | _ => Builtin.number text

/-- What a request to send signals asks for: a list of them, or the signal and the processes. -/
def signalRequest (arguments : List String) : Eval (Bool × Option Nat × List String) := do
  match arguments with
  | [] => return (false, some Signal.terminate, [])
  | first :: rest =>
    match first.toList with
    | '-' :: name =>
      if let some n := Signal.number? 1 (String.ofList name) then return (false, some n, rest)
      let (asked, operands) ← Builtin.options "l" "s" arguments
      let isList := asked.any fun o => o.1 == 'l'
      match (asked.filter fun o => o.1 == 's').getLast? with
      | some (_, name) =>
        match Signal.number? 1 name with
        | some n => return (isList, some n, operands)
        | none => fail s!"invalid signal number or name: {name}"
      | none => return (isList, if isList then none else some Signal.terminate, operands)
    | _ => return (false, some Signal.terminate, arguments)

/-- Lists the signals, or tells the one that an exit code stands for. -/
def listSignals (operands : List String) : Eval Unit := do
  match operands with
  | [] =>
    printLine "0"
    for name in Signal.names.tail do printLine name
  | code :: _ =>
    let n ← Builtin.number code
    let n := if 128 < n then n - 128 else n
    if 0 < n && n < Signal.names.length then printLine (Signal.name n)
    else fail s!"invalid signal number or exit status: {code}"

/-- Ends a command that was to be run beside the script by a signal. -/
def terminate (process signal : Nat) : Eval Unit := modify fun s => { s with
  jobs := s.jobs.filter fun j => j.process != process
  finished := (process, 128 + signal) :: s.finished
  untold := (process, signal) :: s.untold }

/-- The exit code of a command that was run beside the script. A signal that ended it is told of. -/
def statusOf (process : Nat) : Eval Nat := do
  let s ← get
  if let some report := (s.untold.lookup process).bind Signal.report? then complain report
  modify fun s => { s with untold := s.untold.filter fun e => e.1 != process }
  return (s.finished.lookup process).getD 127

end Runbook.Shell.Job
