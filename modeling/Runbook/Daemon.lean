import Runbook.Word
import Runbook.StatePaths
import Runbook.Decimal.Reading
import Runbook.Time.Reading
import Runbook.Schedule.Store

/-!
The scheduler daemon as other processes see it: a file with the number of its process, one with the
time of its start, and the log of errors that it left before it could do its work.
-/

namespace Runbook

structure Daemon where
  pidFile : FilePath
  startTimeFile : FilePath
  errorLog : FilePath
  deriving DecidableEq, Repr

def StatePaths.daemonFiles (p : StatePaths) : Daemon := ⟨p.pidFile, p.startTimeFile, p.errorLog⟩

structure DaemonStatus where
  pid : Option Nat
  start : Option Timestamp
  deriving DecidableEq, Repr

def DaemonStatus.isRunning (s : DaemonStatus) : Bool := s.pid.isSome

def DaemonStatus.uptime? (s : DaemonStatus) (now : Timestamp) : Option Int :=
  s.start.map fun start => start.nanosecondsUntil now

namespace Daemon

open ScheduleProcedure (request)

/-- The number of a process: a 32-bit word. -/
def pidBound : Nat := Word.count 32

def readPid? (content : String) : Option Nat := Numeral.natural? pidBound (Text.trim content.toList)

def removeFile (path : FilePath) : ScheduleProcedure Unit := ExceptT.mk do
  match ← Procedure.remove path with
  | .error .notFound => return .ok ()
  | .error e => return .error (.io path e.message)
  | .ok () => return .ok ()

def makeDirectoryOf (path : FilePath) : ScheduleProcedure Unit := do
  if let some directory := path.parent? then
    request directory (Procedure.makeDirectories directory)

variable (daemon : Daemon)

/-- The process of a live daemon. A file that names none is removed. -/
def pid? : ScheduleProcedure (Option Nat) := do
  match ← (Procedure.read daemon.pidFile : Procedure _) with
  | .error .notFound => return none
  | .error e => throw (.io daemon.pidFile e.message)
  | .ok content =>
    match readPid? content with
    | some pid =>
      if ← Procedure.isAlive pid then return some pid
      else
        removeFile daemon.pidFile
        return none
    | none =>
      removeFile daemon.pidFile
      return none

def isRunning : ScheduleProcedure Bool := do return (← daemon.pid?).isSome

def savePid : ScheduleProcedure Unit := do
  makeDirectoryOf daemon.pidFile
  request daemon.pidFile (Procedure.write daemon.pidFile (toString (← Procedure.processId)))
  let now ← Procedure.now
  request daemon.startTimeFile (Procedure.write daemon.startTimeFile now.offsetText)

def removePid : ScheduleProcedure Unit := do
  removeFile daemon.pidFile
  removeFile daemon.startTimeFile

/-- The start that is recorded, or else the time at which the file of the process was written. -/
def startTime? : Procedure (Option Timestamp) := do
  let recorded := match ← Procedure.read daemon.startTimeFile with
    | .ok content => Timestamp.readStrict? (trimmed content)
    | .error _ => none
  match recorded with
  | some t => return some t
  | none => Procedure.modified daemon.pidFile

def status : ScheduleProcedure DaemonStatus := do
  match ← daemon.pid? with
  | none => return ⟨none, none⟩
  | some pid => return ⟨some pid, ← daemon.startTime?⟩

/-! ### The log of errors -/

def writeError (message : String) : ScheduleProcedure Unit := do
  makeDirectoryOf daemon.errorLog
  let now ← Procedure.now
  request daemon.errorLog (Procedure.append daemon.errorLog s!"[{now.offsetText}] {message}\n")

/-- What the log holds, if there is anything but blanks in it. -/
def errors? : Procedure (Option String) := do
  match ← Procedure.read daemon.errorLog with
  | .ok content =>
    let text := trimmed content
    return if text.isEmpty then none else some text
  | .error _ => return none

def clearErrors : ScheduleProcedure Unit := removeFile daemon.errorLog

/-! ### Starting and stopping -/

/-- Waits for a daemon to appear, unless the child that is to become it ends before. -/
def awaitStart (child : Nat) (interval : Duration) : Nat → Procedure (Option Nat)
  | 0 => return none
  | attempts + 1 => do
    Procedure.sleep interval
    if ← Procedure.hasExited child then return none
    match ← (daemon.pid?).run with
    | .ok (some pid) => return some pid
    | _ => awaitStart child interval attempts

/-- Ends the daemon, by force if it is still there after a period of grace. False if there is
none. -/
def stop (grace : Duration) : ScheduleProcedure Bool := do
  match ← daemon.pid? with
  | none => return false
  | some pid =>
    Procedure.signal pid .graceful
    Procedure.sleep grace
    if ← Procedure.isAlive pid then Procedure.signal pid .forced
    daemon.removePid
    return true

end Daemon

end Runbook
