import Runbook.Pattern.Search

/-!
Masks: what differs from one run to the next in the texts that the program writes, and the names
that stand for it.
-/

namespace Runbook

/-- A pattern, and the name that takes the place of its first group. -/
structure Mask where
  pattern : String
  name : String
  deriving DecidableEq, Repr

namespace Mask

def apply (m : Mask) (text : String) : String :=
  match Pattern.read? m.pattern with
  | some p => Pattern.replaceGroup p 1 m.name text
  | none => text

def applyAll (masks : List Mask) (text : String) : String := masks.foldl (fun s m => m.apply s) text

def logTime : Mask := ⟨r"\[(\d\d\d\d-\d\d-\d\dT\d\d:\d\d:\d\d[^\]]*)\]", "<time>"⟩

def stepDuration : Mask := ⟨r"\((\d+ms|\d+\.\d\ds|\d+m \d+s)\)", "<duration>"⟩

def runDuration : Mask := ⟨r"(?:Total execution time|Elapsed): (.+)", "<duration>"⟩

def plainTime : Mask :=
  ⟨r"(?:next run:?|last run:|started:?) (\d\d\d\d-\d\d-\d\d \d\d:\d\d:\d\d)", "<time>"⟩

def process : Mask := ⟨r"PID: (\d+)", "<pid>"⟩

def historyFile : Mask :=
  ⟨r"(workflow-\d\d\d\d-\d\d-\d\d_\d\d-\d\d-\d\d-\w\w\w\w\.json)", "<history file>"⟩

/-- The names of schedules: eight hexadecimal digits. -/
def scheduleId : Mask :=
  let digit := "[0-9a-f]"
  ⟨r"\b(" ++ String.join (List.replicate 8 digit) ++ r")\b", "<id>"⟩

def console : List Mask :=
  [stepDuration, runDuration, plainTime, logTime, process, historyFile, scheduleId]

end Mask

end Runbook
