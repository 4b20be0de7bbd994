import Runbook.Inspection.Basic
import Runbook.StatePaths
import Runbook.Schedule.Basic
import Runbook.Console.CommandLine
import Runbook.Console.Settings

/-!
The outlines of command lines and settings, and of what is kept between runs.
-/

namespace Runbook

open Document (ofOption)

def StatePaths.outline (p : StatePaths) : Document :=
  .object [("root", .text p.root), ("history", .text p.history), ("schedules", .text p.schedules),
    ("daemon", .text p.daemon), ("config", .text p.configFile), ("pid", .text p.pidFile),
    ("startTime", .text p.startTimeFile), ("errorLog", .text p.errorLog),
    ("log", .text p.daemonLog)]

def NewSchedule.outline (n : NewSchedule) : Document :=
  .object [("name", ofOption .text n.name), ("workflowPath", .text n.workflowPath),
    ("cron", .text n.cron), ("timezone", ofOption .text n.timezone),
    ("silent", ofOption .bool n.silent), ("profile", ofOption .text n.profile)]

end Runbook

namespace Runbook

open Document (ofOption)

namespace Console

/-- The words of a command in full: its names, then every parameter with its value. -/
def ScheduleCommand.words : ScheduleCommand → List String
  | .add file => ["add", "file=" ++ file]
  | .list => ["list"]
  | .remove id => ["remove", "id=" ++ id]
  | .toggle id => ["toggle", "id=" ++ id]
  | .start asDaemon => ["start", s!"daemon={asDaemon}"]
  | .stop => ["stop"]
  | .status => ["status"]

def HistoryCommand.words : HistoryCommand → List String
  | .list => ["list"]
  | .timeline file => ["show", "file=" ++ file]
  | .remove file => ["remove", "file=" ++ file]
  | .clear => ["clean"]

def RunRequest.words (r : RunRequest) : List String :=
  ["file=" ++ r.file] ++ (r.profile.map ("profile=" ++ ·)).toList ++
    r.settings.map (fun v => s!"var:{v.1}={v.2}") ++ [s!"silent={r.isSilent}"]

def Command.words : Command → List String
  | .run request => "run" :: request.words
  | .schedule command => "schedule" :: command.words
  | .history command => "history" :: command.words

def CommandLine.outline (l : CommandLine) : Document :=
  .object [("home", ofOption .text l.home), ("words", .list (l.command.words.map .text))]

end Console

def Settings.outline (s : Settings) : Document :=
  .object [("paths", s.paths.outline),
    ("backoff", .list [s.backoff.base.outline, s.backoff.limit.outline]),
    ("filter", ofOption .text s.logFilter), ("json", .bool s.logsJson)]

end Runbook
