import Runbook.Word
import Runbook.System.Call

/-!
A machine: a tree of files, a table of processes, a clock, and a source of fresh names. It answers
the calls of procedures.
-/

namespace Runbook

/-- A process: when it ends by itself, if ever, and whether it heeds a graceful termination. A child
that has ended keeps its number until its parent takes note. -/
structure ProcessEntry where
  endsAt : Option Timestamp
  heedsTermination : Bool
  deriving DecidableEq, Repr

structure Machine where
  files : FileTree
  /-- The directory that relative paths are seen from. -/
  current : FilePath
  time : Timestamp
  /-- The number of the process that runs the procedures. -/
  self : Nat
  processes : Bindings ProcessEntry Nat
  /-- How many names were given out. -/
  names : Nat
  deriving DecidableEq, Repr

namespace Machine

/-- The greatest number of a process: a signed 32-bit word. -/
def greatestPid : Nat := Word.greatest 31

/-- Whether a process has the number. The number zero stands for the process's own group. -/
def isAlive (m : Machine) (pid : Nat) : Bool :=
  pid ≤ greatestPid && (pid == 0 || pid == m.self || m.processes.isBound pid)

def hasEnded (m : Machine) (p : ProcessEntry) : Bool :=
  match p.endsAt with
  | some t => !m.time.isBefore t
  | none => false

def signal (m : Machine) (pid : Nat) (t : Termination) : Machine :=
  match m.processes.find? pid with
  | some p =>
    if m.hasEnded p ∨ (t = .graceful ∧ !p.heedsTermination) then m
    else { m with processes := m.processes.bind pid { p with endsAt := some m.time } }
  | none => m

/-- Whether a child has ended, which takes its number out of the table. -/
def reap (m : Machine) (pid : Nat) : Bool × Machine :=
  match m.processes.find? pid with
  | some p =>
    if m.hasEnded p then
      (true, { m with processes := m.processes.filter fun e => e.1 != pid })
    else (false, m)
  | none => (true, m)

def hexDigits (width n : Nat) : String :=
  let digits := Nat.toDigits 16 n
  String.ofList (List.replicate (width - digits.length) '0' ++ digits)

/-- A name of 32 hexadecimal digits that no other number of names has. -/
def nameOf (n : Nat) : String :=
  hexDigits 32 ((n * 0x9E3779B97F4A7C15F39CC0605CEDC835 + 0x2545F4914F6CDD1D) % Word.count 128)

def changed (m : Machine) (change : Except SystemError FileTree) :
    Except SystemError Unit × Machine :=
  match change with
  | .ok files => (.ok (), { m with files })
  | .error e => (.error e, m)

def reply (m : Machine) : (call : SystemCall) → call.Reply × Machine
  | .read path => (m.files.read m.current path, m)
  | .write path text => m.changed (m.files.write m.current m.time path fun _ => text)
  | .append path text => m.changed (m.files.write m.current m.time path fun old => old ++ text)
  | .remove path => m.changed (m.files.remove m.current path)
  | .rename source target => m.changed (m.files.rename m.current source target)
  | .makeDirectories path =>
    m.changed (m.files.makeDirectories m.current m.time path (path.names.length + 1))
  | .removeDirectory path => m.changed (m.files.removeDirectory m.current path)
  | .list path => (m.files.list m.current path, m)
  | .kind path => (m.files.kindAt? m.current path, m)
  | .canonicalize path => (m.files.canonicalize m.current path, m)
  | .modified path => (m.files.modifiedAt? m.current path, m)
  | .lock => ((), m)
  | .unlock => ((), m)
  | .processId => (m.self, m)
  | .isAlive pid => (m.isAlive pid, m)
  | .signal pid t => ((), m.signal pid t)
  | .hasExited pid => m.reap pid
  | .sleep d => ((), { m with time := m.time.later d })
  | .now => (m.time, m)
  | .freshName => (nameOf m.names, { m with names := m.names + 1 })

def perform {α : Type} (m : Machine) (p : Procedure α) : Option (α × Machine) :=
  p.finish reply m

end Machine

end Runbook
