import Runbook.Program
import Runbook.System.FileTree

/-!
What programs ask of the system they run on: files, the lock that guards the writing of shared
files, processes, the time, and fresh names.
-/

namespace Runbook

/-- How a process is told to end: it may refuse to, or it cannot. -/
inductive Termination where
  | graceful | forced
  deriving DecidableEq, Repr

inductive SystemCall where
  | read (path : FilePath)
  | write (path : FilePath) (text : String)
  | append (path : FilePath) (text : String)
  | remove (path : FilePath)
  | rename (source target : FilePath)
  | makeDirectories (path : FilePath)
  | removeDirectory (path : FilePath)
  | list (path : FilePath)
  | kind (path : FilePath)
  | canonicalize (path : FilePath)
  | modified (path : FilePath)
  | lock
  | unlock
  | processId
  | isAlive (pid : Nat)
  | signal (pid : Nat) (termination : Termination)
  | hasExited (pid : Nat)
  | sleep (duration : Duration)
  | now
  | freshName
  deriving DecidableEq, Repr

abbrev SystemCall.Reply : SystemCall → Type
  | .read _ => Except SystemError String
  | .write .. => Except SystemError Unit
  | .append .. => Except SystemError Unit
  | .remove _ => Except SystemError Unit
  | .rename .. => Except SystemError Unit
  | .makeDirectories _ => Except SystemError Unit
  | .removeDirectory _ => Except SystemError Unit
  | .list _ => Except SystemError (List String)
  | .kind _ => Option NodeKind
  | .canonicalize _ => Except SystemError FilePath
  | .modified _ => Option Timestamp
  | .processId => Nat
  | .isAlive _ => Bool
  | .hasExited _ => Bool
  | .now => Timestamp
  | .freshName => String
  | _ => Unit

abbrev SystemCall.interface : Interface := ⟨SystemCall, SystemCall.Reply⟩

abbrev Procedure (α : Type) := Program SystemCall.interface α

abbrev SystemHost (σ : Type) := Host SystemCall.interface σ

namespace Procedure

def call (c : SystemCall) : Procedure c.Reply := Program.call (I := SystemCall.interface) c

def read (path : FilePath) : Procedure (Except SystemError String) := call (.read path)

def write (path : FilePath) (text : String) : Procedure (Except SystemError Unit) :=
  call (.write path text)

def append (path : FilePath) (text : String) : Procedure (Except SystemError Unit) :=
  call (.append path text)

def remove (path : FilePath) : Procedure (Except SystemError Unit) := call (.remove path)

def rename (source target : FilePath) : Procedure (Except SystemError Unit) :=
  call (.rename source target)

def makeDirectories (path : FilePath) : Procedure (Except SystemError Unit) :=
  call (.makeDirectories path)

def removeDirectory (path : FilePath) : Procedure (Except SystemError Unit) :=
  call (.removeDirectory path)

def list (path : FilePath) : Procedure (Except SystemError (List String)) := call (.list path)

def kind (path : FilePath) : Procedure (Option NodeKind) := call (.kind path)

def canonicalize (path : FilePath) : Procedure (Except SystemError FilePath) :=
  call (.canonicalize path)

def modified (path : FilePath) : Procedure (Option Timestamp) := call (.modified path)

def processId : Procedure Nat := call .processId

def isAlive (pid : Nat) : Procedure Bool := call (.isAlive pid)

def signal (pid : Nat) (t : Termination) : Procedure Unit := call (.signal pid t)

/-- Whether a child process has ended; if so, it is gone from then on. -/
def hasExited (pid : Nat) : Procedure Bool := call (.hasExited pid)

def sleep (d : Duration) : Procedure Unit := call (.sleep d)

def now : Procedure Timestamp := call .now

def freshName : Procedure String := call .freshName

def locked {α : Type} (p : Procedure α) : Procedure α := do
  call .lock
  let result ← p
  call .unlock
  return result

end Procedure

end Runbook
