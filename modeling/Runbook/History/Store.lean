import Runbook.System.Call
import Runbook.History.Codec

/-!
The directory that keeps histories, one file a run. The names of the files begin with the time at
which the run started, so that in order of their names the newest one is the last.
-/

namespace Runbook

inductive HistoryError where
  | createDirectory (cause : SystemError)
  | readDirectory (cause : SystemError)
  | write (path : FilePath) (cause : SystemError)
  | read (path : FilePath) (cause : SystemError)
  | parse (path : FilePath)
  | remove (path : FilePath) (cause : SystemError)
  | invalidName (name : String)
  deriving DecidableEq, Repr

namespace HistoryError

def message : HistoryError → String
  | .createDirectory _ => "Failed to create history directory"
  | .readDirectory _ => "Failed to read history directory"
  | .write path _ => "Failed to write history file " ++ path
  | .read path _ => "Failed to read history file " ++ path
  | .parse path => "Failed to parse history file " ++ path
  | .remove path _ => "Failed to remove " ++ path
  | .invalidName name => "Invalid history file name: " ++ name

def cause? : HistoryError → Option String
  | .createDirectory cause => some cause.message
  | .readDirectory cause => some cause.message
  | .write _ cause => some cause.message
  | .read _ cause => some cause.message
  | .parse _ => some "<detail>"
  | .remove _ cause => some cause.message
  | .invalidName _ => none

def fullMessage (e : HistoryError) : String :=
  e.message ++ (e.cause?.map (": " ++ ·)).getD ""

end HistoryError

abbrev HistoryProcedure (α : Type) := ExceptT HistoryError Procedure α

structure HistoryEntry where
  name : String
  path : FilePath
  deriving DecidableEq, Repr

structure HistoryStore where
  directory : FilePath
  deriving DecidableEq, Repr

namespace HistoryStore

/-! ### Names of files -/

def nameStart : String := "workflow-"

def nameEnd : String := ".json"

/-- The time in the name of a file, to the second. -/
def stampText (t : Timestamp) : String :=
  Timestamp.dateText t.face.date ++ "_" ++ Timestamp.clockText "-" t.face

/-- The number of digits at the end of a name, which tell runs of one second apart. -/
def suffixLength : Nat := 4

def fileName (start : Timestamp) (unique : String) : String :=
  nameStart ++ stampText start ++ "-" ++ String.ofList (unique.toList.take suffixLength) ++ nameEnd

def isHistoryName (name : String) : Bool := name.startsWith nameStart && name.endsWith nameEnd

/-- Whether a name is that of a file right inside the directory. -/
def isBareName (name : String) : Bool :=
  FilePath.fileName? name == some name && !name.toList.any fun c => c == '/' || c == '\\'

variable (store : HistoryStore)

def entryPath (name : String) : Except HistoryError FilePath :=
  if isBareName name then .ok (store.directory.join name) else .error (.invalidName name)

/-! ### Procedures -/

def write (h : History) : HistoryProcedure FilePath := ExceptT.mk do
  match ← Procedure.makeDirectories store.directory with
  | .error e => return .error (.createDirectory e)
  | .ok () =>
    let path := store.directory.join (fileName h.start (← Procedure.freshName))
    match ← Procedure.write path h.fileText with
    | .error e => return .error (.write path e)
    | .ok () => return .ok path

def list : HistoryProcedure (List HistoryEntry) := ExceptT.mk do
  match ← Procedure.kind store.directory with
  | none => return .ok []
  | some _ =>
    match ← Procedure.list store.directory with
    | .error e => return .error (.readDirectory e)
    | .ok names =>
      let sorted := (names.filter isHistoryName).mergeSort fun a b => b ≤ a
      return .ok (sorted.map fun name => ⟨name, store.directory.join name⟩)

def load (name : String) : HistoryProcedure History := do
  let path ← store.entryPath name
  match ← (Procedure.read path : Procedure _) with
  | .error e => throw (.read path e)
  | .ok text =>
    match History.read? text with
    | some h => return h
    | none => throw (.parse path)

/-- Removes a file; false if it is not there. -/
def remove (name : String) : HistoryProcedure Bool := do
  let path ← store.entryPath name
  match ← (Procedure.remove path : Procedure _) with
  | .ok () => return true
  | .error .notFound => return false
  | .error e => throw (.remove path e)

def removeAll : List HistoryEntry → HistoryProcedure Nat
  | [] => return 0
  | entry :: rest => do
    let removed ← store.remove entry.name
    let others ← removeAll rest
    return (if removed then 1 else 0) + others

def clear : HistoryProcedure Nat := do store.removeAll (← store.list)

end HistoryStore

end Runbook
