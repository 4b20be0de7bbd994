import Runbook.Schedule.Definition
import Runbook.Schedule.Store

/-!
Adding the definitions of a schedule file to a store. A definition that cannot be prepared is
rejected, and the others are added all the same.
-/

namespace Runbook

/-- What became of the definitions of a schedule file: those added, and those rejected with the
reason, under their names. -/
structure AddReport where
  added : List Schedule
  rejected : List (String × String)
  deriving DecidableEq, Repr

namespace ScheduleStore

variable (store : ScheduleStore)

def addDefinitions (file : FilePath) : List ScheduleDefinition → ScheduleProcedure AddReport
  | [] => return ⟨[], []⟩
  | d :: rest => do
    match ← ExceptT.lift (d.prepare file) with
    | .error e =>
      let report ← addDefinitions file rest
      return { report with rejected := (d.name, e.message) :: report.rejected }
    | .ok new =>
      let schedule ← store.add new
      let report ← addDefinitions file rest
      return { report with added := schedule :: report.added }

def addFile (file : FilePath) : ScheduleProcedure AddReport := do
  addDefinitions store file (← ExceptT.mk (ScheduleDefinition.load file))

end ScheduleStore

end Runbook
