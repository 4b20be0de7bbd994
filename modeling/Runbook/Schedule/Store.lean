import Runbook.System.Call
import Runbook.Schedule.Basic
import Runbook.Schedule.Error

/-!
The file that keeps the schedules. Every change reads the whole file, and puts a new one in its
place at once, so that a reader sees it as it was before a change or after it. Changes are made
inside the lock.
-/

namespace Runbook

abbrev ScheduleProcedure (α : Type) := ExceptT ScheduleError Procedure α

namespace ScheduleProcedure

def request {α : Type} (path : FilePath) (p : Procedure (Except SystemError α)) :
    ScheduleProcedure α :=
  ExceptT.mk do return (← p).mapError fun e => .io path e.message

def locked {α : Type} (p : ScheduleProcedure α) : ScheduleProcedure α :=
  ExceptT.mk (Procedure.locked p.run)

end ScheduleProcedure

namespace Schedule

/-- Changes the first schedule with a name; gives the changed one, and all of them. -/
def change? (id : String) (f : Schedule → Schedule) :
    List Schedule → Option (Schedule × List Schedule)
  | [] => none
  | s :: rest =>
    if s.id = id then some (f s, f s :: rest)
    else (change? id f rest).map fun (changed, rest) => (changed, s :: rest)

def without (id : String) (schedules : List Schedule) : List Schedule :=
  schedules.filter fun s => s.id != id

def toggled (s : Schedule) : Schedule := { s with enabled := !s.enabled }

def idLength : Nat := 8

/-- How many names are tried before one is free. -/
def idAttempts : Nat := 1000

def freshId (schedules : List Schedule) : Nat → Procedure String
  | 0 => .unbounded
  | attempts + 1 => do
    let id := String.ofList ((← Procedure.freshName).toList.take idLength)
    if schedules.any (·.id == id) then freshId schedules attempts else return id

end Schedule

structure ScheduleStore where
  path : FilePath
  deriving DecidableEq, Repr

namespace ScheduleStore

variable (store : ScheduleStore)

/-- All schedules; without a file there are none. -/
def load : ScheduleProcedure (List Schedule) := ExceptT.mk do
  match ← Procedure.read store.path with
  | .error .notFound => return .ok []
  | .error e => return .error (.io store.path e.message)
  | .ok text =>
    match Schedule.readFile? text with
    | some schedules => return .ok schedules
    | none => return .error .serialization

/-- The name of the file that is filled before it takes the place of the store's file. -/
def stagingName (process : Nat) (unique : String) : String :=
  let name := store.path.fileName?.getD "schedules.json"
  s!".{name}.{process}.{unique}.tmp"

/-- Puts a file in the place of the store's file; what is left of it after an error is removed. -/
def replace (staging : FilePath) (text : String) : ScheduleProcedure Unit := ExceptT.mk do
  let attempt : ScheduleProcedure Unit := do
    ScheduleProcedure.request staging (Procedure.write staging text)
    ScheduleProcedure.request store.path (Procedure.rename staging store.path)
  let written ← attempt.run
  match written with
  | .ok () => return .ok ()
  | .error e =>
    let _ ← Procedure.remove staging
    return .error e

def write (schedules : List Schedule) : ScheduleProcedure Unit := do
  if let some directory := store.path.parent? then
    ScheduleProcedure.request directory (Procedure.makeDirectories directory)
  let name := store.stagingName (← Procedure.processId) (← Procedure.freshName)
  store.replace (store.path.withFileName name) (Schedule.fileText schedules)

def save (schedules : List Schedule) : ScheduleProcedure Unit :=
  .locked (store.write schedules)

def add (new : NewSchedule) : ScheduleProcedure Schedule := .locked do
  let schedules ← store.load
  let id ← Schedule.freshId schedules Schedule.idAttempts
  let schedule := new.toSchedule id (← Procedure.now)
  store.write (schedules ++ [schedule])
  return schedule

/-- Removes a schedule; false if there is none with the name. -/
def remove (id : String) : ScheduleProcedure Bool := .locked do
  let schedules ← store.load
  let others := Schedule.without id schedules
  if others.length = schedules.length then return false
  store.write others
  return true

def change (id : String) (f : Schedule → Schedule) : ScheduleProcedure Schedule := .locked do
  let schedules ← store.load
  match Schedule.change? id f schedules with
  | none => throw (.notFound id)
  | some (schedule, schedules) =>
    store.write schedules
    return schedule

/-- Enables a schedule that is disabled, and the other way round. -/
def toggle (id : String) : ScheduleProcedure Schedule := store.change id Schedule.toggled

def recordRun (id : String) (time : Timestamp) : ScheduleProcedure Unit := do
  let _ ← store.change id fun s => { s with lastRun := some time }

def find? (id : String) : ScheduleProcedure (Option Schedule) := do
  return (← store.load).find? (·.id == id)

end ScheduleStore

end Runbook
