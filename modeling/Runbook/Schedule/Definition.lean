import Runbook.Workflow.Reader
import Runbook.Schedule.Basic
import Runbook.Schedule.Error

/-!
Schedule files: several schedules defined in one document. A definition names the file of its
workflow as seen from the schedule file; what is wrong with one definition does not touch the
others.
-/

namespace Runbook

structure ScheduleDefinition where
  name : String
  cron : String
  workflow : FilePath
  baseDir : Option FilePath
  timezone : Option String
  silent : Option Bool
  profile : Option String
  deriving DecidableEq, Repr

namespace ScheduleDefinition

open Record

/-! ### Reading -/

def fieldNames : List String :=
  ["name", "cron", "workflow", "baseDir", "timezone", "silent", "profile"]

def textOrEmpty? : Option Document → Option String
  | none => some ""
  | some d => d.asText?

def ofDocument? (d : Document) : Option ScheduleDefinition := do
  match ← fields? fieldNames 0 d with
  | [name, cron, workflow, baseDir, timezone, silent, profile] =>
    let optionalText := optional? Document.asText?
    return ⟨← textOrEmpty? name, ← textOrEmpty? cron, ← textOrEmpty? workflow,
      ← optionalText baseDir, ← optionalText timezone, ← optional? Document.asBool? silent,
      ← optionalText profile⟩
  | _ => none

/-- The definitions in a document; without a list there are none. -/
def listOfDocument? (d : Document) : Option (List ScheduleDefinition) := do
  match ← fields? ["schedules"] 0 d with
  | [schedules] => return (← optional? (listOf? ofDocument?) schedules).getD []
  | _ => none

/-! ### Checking -/

inductive Gap where
  | schedules
  | name (index : Nat)
  | cron (index : Nat)
  | workflow (index : Nat)
  deriving DecidableEq, Repr

namespace Gap

def message : Gap → String
  | .schedules => "Schedule file must have at least one schedule"
  | .name _ => "Schedule name must be non-empty"
  | .cron _ => "Cron expression is required"
  | .workflow _ => "Workflow path is required"

def location : Gap → String
  | .schedules => "schedules"
  | .name i => s!"schedules.{i}.name"
  | .cron i => s!"schedules.{i}.cron"
  | .workflow i => s!"schedules.{i}.workflow"

def text (g : Gap) : String := issueText g.message (some g.location) none

end Gap

def gaps (d : ScheduleDefinition) (index : Nat) : List Gap :=
  (if isBlank d.name then [.name index] else []) ++
    (if isBlank d.cron then [.cron index] else []) ++
    if isBlank d.workflow then [.workflow index] else []

def allGaps (definitions : List ScheduleDefinition) : List Gap :=
  if definitions.isEmpty then [.schedules]
  else definitions.zipIdx.flatMap fun (d, i) => d.gaps i

def read (format : FileFormat) (content : String) :
    Except ScheduleError (List ScheduleDefinition) := do
  let d ← (readDocument format content).mapError .workflow
  match listOfDocument? d with
  | none => .error (.invalidFile "<detail>")
  | some definitions =>
    match allGaps definitions with
    | [] => return definitions
    | gaps => .error (.invalidFile ("\n" ++ "\n".intercalate (gaps.map Gap.text)))

def load (path : FilePath) : Procedure (Except ScheduleError (List ScheduleDefinition)) := do
  match FileFormat.ofPath? path with
  | .error e => return .error (.workflow e)
  | .ok format =>
    match ← Procedure.read path with
    | .error e => return .error (.io path e.message)
    | .ok content => return read format content

/-! ### Preparing -/

/-- The file of the workflow, as seen from the base directory or else from the directory of the
schedule file. -/
def workflowPath (d : ScheduleDefinition) (file : FilePath) : FilePath :=
  let directory := file.parent?.getD ""
  let base := match d.baseDir with
    | some base => if FilePath.isAbsolute base then base else directory.join base
    | none => directory
  base.join d.workflow

/-- The schedule that a definition stands for, given the file of its workflow. -/
def toNew (d : ScheduleDefinition) (path : FilePath) : NewSchedule :=
  ⟨some (trimmed d.name), path, trimmed d.cron, d.timezone, d.silent, d.profile⟩

/-- Whether the expression and the zone of a definition can be read. -/
def checkTimes (d : ScheduleDefinition) : Computed (Except ScheduleError Unit) := do
  return (← Cron.parse d.cron).bind fun _ => (Zone.resolve d.timezone).map fun _ => ()

def prepare (d : ScheduleDefinition) (file : FilePath) :
    Procedure (Except ScheduleError NewSchedule) := do
  match ← Program.computed d.checkTimes with
  | .error e => return .error e
  | .ok () =>
    let path := d.workflowPath file
    if (← Procedure.kind path) = some .file then
      return .ok (d.toNew (← Procedure.resolved path))
    else return .error (.workflowNotFound path)

end ScheduleDefinition

end Runbook
