import Runbook.Record
import Runbook.StatePaths
import Runbook.Run.Backoff
import Runbook.System.Call
import Runbook.Toml.Reader

/-!
The settings of the program: a file in the state directory, in which everything may be left out.
-/

namespace Runbook

inductive SettingsError where
  | createDirectory (cause : SystemError)
  | read (cause : SystemError)
  | parse
  deriving DecidableEq, Repr

namespace SettingsError

def message : SettingsError → String
  | .createDirectory _ => "Failed to create state directory"
  | .read _ => "Failed to read configuration file"
  | .parse => "Failed to parse configuration file"

def cause : SettingsError → String
  | .createDirectory cause => cause.message
  | .read cause => cause.message
  | .parse => "<detail>"

def fullMessage (e : SettingsError) : String := e.message ++ ": " ++ e.cause

end SettingsError

structure Settings where
  home : FilePath
  /-- Where things are kept, as seen from the state directory. -/
  historyDirectory : FilePath
  schedulesFile : FilePath
  daemonDirectory : FilePath
  /-- Which entries go to the log, and whether they are written as JSON. -/
  logFilter : Option String
  logsJson : Bool
  backoff : Backoff
  deriving DecidableEq, Repr

namespace Settings

open Record

def standard (home : FilePath) : Settings where
  home
  historyDirectory := "history"
  schedulesFile := "schedules.json"
  daemonDirectory := "daemon"
  logFilter := none
  logsJson := false
  backoff := Backoff.standard

def paths (s : Settings) : StatePaths where
  root := s.home
  history := s.home.join s.historyDirectory
  schedules := s.home.join s.schedulesFile
  daemon := s.home.join s.daemonDirectory

/-! ### Reading -/

/-- The fields of a part, all of which may be missing; in a list, more may follow. -/
def partFields? (names : List String) : Document → Option (List (Option Document))
  | .list items => fields? names names.length (.list (items.take names.length))
  | d => fields? names names.length d

def defaulted? {α : Type} (fallback : α) (read? : Document → Option α) :
    Option Document → Option α
  | none => some fallback
  | some d => read? d

def withStorage? (s : Settings) (d : Document) : Option Settings := do
  match ← partFields? ["history_dir", "schedules_file", "daemon_dir"] d with
  | [history, schedules, daemon] =>
    return { s with
      historyDirectory := ← defaulted? s.historyDirectory Document.asText? history
      schedulesFile := ← defaulted? s.schedulesFile Document.asText? schedules
      daemonDirectory := ← defaulted? s.daemonDirectory Document.asText? daemon }
  | _ => none

def withLogging? (s : Settings) (d : Document) : Option Settings := do
  match ← partFields? ["filter", "json"] d with
  | [filter, json] =>
    return { s with
      logFilter := ← optional? Document.asText? filter
      logsJson := ← defaulted? s.logsJson Document.asBool? json }
  | _ => none

def milliseconds? (d : Document) : Option Duration := (word64? d).map Duration.ofMilliseconds

def withExecution? (s : Settings) (d : Document) : Option Settings := do
  match ← partFields? ["retry_backoff_ms", "retry_backoff_max_ms"] d with
  | [base, limit] =>
    return { s with
      backoff := ⟨← defaulted? s.backoff.base milliseconds? base,
        ← defaulted? s.backoff.limit milliseconds? limit⟩ }
  | _ => none

def withPart? (s : Settings) (read? : Settings → Document → Option Settings) :
    Option Document → Option Settings
  | none => some s
  | some d => read? s d

def ofDocument? (home : FilePath) (d : Document) : Option Settings := do
  match ← partFields? ["storage", "logging", "execution"] d with
  | [storage, logging, execution] =>
    let s ← (standard home).withPart? withStorage? storage
    let s ← s.withPart? withLogging? logging
    s.withPart? withExecution? execution
  | _ => none

def read? (home : FilePath) (text : String) : Option Settings :=
  (Toml.read? text).bind (ofDocument? home)

def load (home : FilePath) : ExceptT SettingsError Procedure Settings := ExceptT.mk do
  match ← Procedure.makeDirectories home with
  | .error e => return .error (.createDirectory e)
  | .ok () =>
    let file := (StatePaths.beneath home).configFile
    match ← Procedure.kind file with
    | none => return .ok (standard home)
    | some _ =>
      match ← Procedure.read file with
      | .error e => return .error (.read e)
      | .ok text =>
        match read? home text with
        | some s => return .ok s
        | none => return .error .parse

end Settings

end Runbook
