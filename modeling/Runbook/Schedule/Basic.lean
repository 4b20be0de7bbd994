import Runbook.Record
import Runbook.Json.Reader
import Runbook.Json.Writer
import Runbook.Time.Reading
import Runbook.FilePath
import Runbook.History.Codec

/-!
Schedules: workflows that are to run at the times of a cron expression, and the documents that they
are kept in.
-/

namespace Runbook

structure Schedule where
  id : String
  name : Option String
  workflowPath : FilePath
  cron : String
  enabled : Bool
  createdAt : Timestamp
  lastRun : Option Timestamp
  timezone : Option String
  silent : Option Bool
  profile : Option String
  deriving DecidableEq, Repr

structure NewSchedule where
  name : Option String
  workflowPath : FilePath
  cron : String
  timezone : Option String
  silent : Option Bool
  profile : Option String
  deriving DecidableEq, Repr

/-- The schedule that a new one becomes: enabled and not yet run. -/
def NewSchedule.toSchedule (n : NewSchedule) (id : String) (now : Timestamp) : Schedule :=
  ⟨id, n.name, n.workflowPath, n.cron, true, now, none, n.timezone, n.silent, n.profile⟩

namespace Schedule

open Record

def displayName (s : Schedule) : String := s.name.getD s.id

def isSilent (s : Schedule) : Bool := s.silent.getD false

/-- The record of a schedule; what is not set is left out. -/
def document (s : Schedule) : Document :=
  .object <| [("id", .text s.id)] ++ present "name" .text s.name ++
    [("workflowPath", .text s.workflowPath), ("cron", .text s.cron),
      ("enabled", .bool s.enabled), ("createdAt", .text s.createdAt.text)] ++
    present "lastRun" (fun t => .text t.text) s.lastRun ++
    present "timezone" .text s.timezone ++ present "silent" .bool s.silent ++
    present "profile" .text s.profile

def fieldNames : List String :=
  ["id", "name", "workflowPath", "cron", "enabled", "createdAt", "lastRun", "timezone", "silent",
    "profile"]

def ofDocument? (d : Document) : Option Schedule := do
  match ← fields? fieldNames 4 d with
  | [id, name, path, cron, enabled, created, last, timezone, silent, profile] =>
    let text := required? Document.asText?
    let optionalText := optional? Document.asText?
    return ⟨← text id, ← optionalText name, ← text path, ← text cron,
      ← required? Document.asBool? enabled, ← required? History.timestamp? created,
      ← optional? History.timestamp? last, ← optionalText timezone,
      ← optional? Document.asBool? silent, ← optionalText profile⟩
  | _ => none

def fileText (schedules : List Schedule) : String :=
  Json.pretty (.object [("schedules", .list (schedules.map document))])

/-- The schedules that the text of a file keeps. A blank text, and a document without a list, keep
none. -/
def readFile? (text : String) : Option (List Schedule) :=
  if isBlank text then some []
  else do
    match ← fields? ["schedules"] 1 (← Json.read? text) with
    | [some schedules] => listOf? ofDocument? schedules
    | _ => return []

end Schedule

end Runbook
