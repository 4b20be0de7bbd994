import Runbook.Shell.Session

/-!
Streams that are led elsewhere: to files, to where other streams lead, or nowhere.
-/

namespace Runbook.Shell.Redirection

open Eval

def targetOf (name : String) : Eval (Option Target) := do
  let s ← get
  match name with
  | "/dev/null" => return some .nowhere
  | "/dev/stdout" => return s.targets.find? 1
  | "/dev/stderr" => return s.targets.find? 2
  | _ => return some (.file (← located name))

/-- Complains of a file that cannot be opened, where `missing` tells that something is not there. -/
def openFault (action name missing : String) (e : SystemError) : Eval Bool := do
  let cause := match e with
    | .notFound | .notDirectory => missing
    | e => e.name
  complainAt s!"cannot {action} {name}: {cause}"
  return false

def redirectTo (stream : Nat) (mode : RedirectionMode) (name : String) : Eval Bool := do
  match ← targetOf name with
  | none => return true
  | some target =>
    let result ← match target, mode with
      | .file path, .append => system (.append path "")
      | .file path, .write => do
        let isKept := (← get).options.isOn 'C'
        if isKept && (← system (.kind path)).isSome then pure (.error .exists)
        else system (.write path "")
      | .file path, _ => system (.write path "")
      | _, _ => pure (.ok ())
    match result with
    | .ok () =>
      modify fun s => { s with targets := s.targets.bind stream target }
      return true
    | .error e => openFault "create" name "Directory nonexistent" e

/-- Lets a stream lead where another one leads, or nowhere. -/
def redirectLike (stream : Nat) (name : String) : Eval Bool := do
  match name.toList with
  | ['-'] =>
    modify fun s => { s with targets := s.targets.filter fun e => e.1 != stream }
    return true
  | [digit] =>
    if !digit.isDigit then fail "Syntax error: Bad fd number"
    match (← get).targets.find? (digit.toNat - 48) with
    | some target =>
      modify fun s => { s with targets := s.targets.bind stream target }
      return true
    | none =>
      complainAt s!"{name}: Bad file descriptor"
      return false
  | _ => fail "Syntax error: Bad fd number"

/-- Leads a stream elsewhere; the truth value tells whether that is possible. -/
def redirect (stream : Nat) (mode : RedirectionMode) (name : String) : Eval Bool := do
  match mode with
  | .read =>
    match ← readFile name with
    | .ok octets =>
      modify fun s => s.open stream octets
      return true
    | .error e => openFault "open" name "No such file" e
  | .duplicate => redirectLike stream name
  | mode => redirectTo stream mode name

end Runbook.Shell.Redirection
