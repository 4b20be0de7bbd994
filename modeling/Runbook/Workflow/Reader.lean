import Runbook.Json.Reader
import Runbook.Yaml.Reader
import Runbook.Workflow.StepCheck
import Runbook.Workflow.Repair
import Runbook.Workflow.StepLines
import Runbook.Workflow.Error
import Runbook.System.Call

/-!
Workflows read from documents and from the text of a file, the variables of their profiles, and
workflows in files. The issues of a document with steps are those of its root, and after them those
of each step on its own.
-/

namespace Runbook.Workflow

/-- The variables of a profile; each must be a string, a number or a boolean. -/
def profileVariables (location : Location) : List (String × Document) → Checked (Bindings String)
  | [] => .found []
  | (name, d) :: rest => do
    let text ← match d.scalarText? with
      | some text => .found (some text)
      | none => (Checked.issue (.profileVariable name) location).optional
    let others ← profileVariables location rest
    return match text with
      | some text => (name, text) :: others
      | none => others

def profileOf (index : Nat) (d : Document) : Checked Profile :=
  let location := Location.profile index
  match trimmedText? (d.field? "name") with
  | none => .issue .profileName location
  | some name => do
    let vars ← match Document.present (d.field? "var") with
      | none => .found []
      | some (.object fields) => profileVariables location fields
      | some _ => .issue .profileVariables location
    return ⟨name, vars⟩

def profilesOf (d : Option Document) : Checked (List Profile) :=
  match Document.present d with
  | none => .found []
  | some (.list items) => .all (items.mapIdx profileOf)
  | some _ => .issue .profilesNotList .root

def stepsOf (d : Option Document) : Checked (List Step) :=
  match Document.present d with
  | none => .issue .stepsMissing .root
  | some (.list []) => .issue .stepsEmpty .root
  | some (.list items) => .all (items.mapIdx Step.check)
  | some _ => .issue .stepsNotList .root

def check : Document → Checked Workflow
  | .object fields => do
    let name ← optionalText (Fields.get? fields "name") .nameNotText .root
    let baseDir ← optionalText (Fields.get? fields "baseDir") .baseDirNotText .root
    let shell ← RunStep.shellOf (Fields.get? fields "shell") .root
    let profiles ← (profilesOf (Fields.get? fields "profiles")).optional
    let steps ← (stepsOf (Fields.get? fields "steps")).optional
    match profiles, steps with
    | some profiles, some steps =>
      return { name, baseDir, shell, profiles, steps, source := ⟨none, none, []⟩ }
    | _, _ => .ofOption none
  | _ => .issue .notAnObject .root

end Runbook.Workflow

namespace Runbook

/-- The document that a text writes, its fields sorted. -/
def readDocument (format : FileFormat) (content : String) : Except WorkflowError Document :=
  let read := match format with
    | .yaml => Yaml.read? content
    | .json => Json.read? content
  match read with
  | some d => .ok d.settled
  | none => .error (.format format)

def stepLines (format : FileFormat) (content : String) : List (Nat × Nat) :=
  StepLines.indexed <| match format with
    | .yaml => StepLines.ofYaml content.toList
    | .json => StepLines.ofJson content.toList

namespace Workflow

def ofDocument (d : Document) : Except WorkflowError Workflow :=
  (check (Repair.document d)).result.mapError .validation

def read (format : FileFormat) (content : String) : Except WorkflowError Workflow := do
  let w ← ofDocument (← readDocument format content)
  return { w with source := { w.source with stepLines := stepLines format content } }

def profileVariables? (w : Workflow) (name : String) : Except WorkflowError (Bindings String) :=
  let name := trimmed name
  if w.profiles.isEmpty then .error (.noProfiles name)
  else match w.profiles.find? (·.name = name) with
    | some profile => .ok profile.vars
    | none => .error (.profileNotFound name (w.profiles.map Profile.name))

/-- The variables of a run: those of a profile, if one is asked for, under the ones given. -/
def runVariables (w : Workflow) (profile : Option String) (given : Bindings String) :
    Except WorkflowError (Bindings String) := do
  match profile with
  | none => return given
  | some name => return Bindings.union (← w.profileVariables? name) given

end Workflow

/-- A path as the system resolves it, or as it is written if it cannot be resolved. -/
def Procedure.resolved (path : FilePath) : Procedure FilePath := do
  match ← Procedure.canonicalize path with
  | .ok resolved => return resolved
  | .error _ => return path

namespace Workflow

def readFrom (format : FileFormat) (path resolved : FilePath) (content : String) :
    Except WorkflowError Workflow := do
  let w ← read format content
  return { w with source :=
    { w.source with fileName := path.fileName?, filePath := some resolved } }

def load (path : FilePath) : Procedure (Except WorkflowError Workflow) := do
  match FileFormat.ofPath? path with
  | .error e => return .error e
  | .ok format =>
    match ← Procedure.read path with
    | .error e => return .error (.unreadable path e.message)
    | .ok content => return readFrom format path (← Procedure.resolved path) content

end Workflow

end Runbook
