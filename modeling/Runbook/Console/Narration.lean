import Runbook.Duration
import Runbook.History.Basic
import Runbook.Run.Task
import Runbook.Scheduler.Basic

/-!
The lines that tell of runs, those that are over included, of the scheduler, and of schedules.
-/

namespace Runbook

/-- A duration for a reader: milliseconds below a second, seconds with two places below a minute,
and from there on minutes and seconds. -/
def Duration.briefText (d : Duration) : String :=
  if d.milliseconds < 1000 then s!"{d.milliseconds}ms"
  else if d.milliseconds < 60000 then fixedText 2 d.toFloat ++ "s"
  else s!"{d.seconds / 60}m {d.seconds % 60}s"

namespace Console

def verdict (success : Bool) : String := if success then "✓" else "✗"

def resolvedText : Option ResolvedValue → String
  | some (.command text) => text
  | some (.choice id) => "chose " ++ id
  | some (.prompt text) => "answered " ++ text
  | none => ""

def timelineLine (success : Bool) (step : Nat) (branch : Option Nat)
    (resolved : Option ResolvedValue) (milliseconds : Nat) : String :=
  s!"{verdict success} Step {step + 1}" ++
    (branch.map fun b => s!" → branch {b + 1}").getD "" ++
    s!" {resolvedText resolved} ({milliseconds}ms)"

def timelineLine? : Occurrence → Option String
  | .stepCompleted step branch _ resolved _ milliseconds =>
    some (timelineLine true step branch resolved milliseconds)
  | .stepFailed step branch _ resolved _ _ milliseconds =>
    some (timelineLine false step branch resolved milliseconds)
  | _ => none

def timelineLines (h : History) : List String :=
  h.events.filterMap fun e => timelineLine? e.occurrence

end Console

end Runbook

namespace Runbook

open Console (verdict timelineLines)

/-! ### Runs -/

def StepLabel.startLine (l : StepLabel) : String :=
  let mark := if l.conditional then " (conditional)" else ""
  s!"▶ {l.name}{mark} [{l.kind}] {l.text}"

def StepLabel.finishLine (l : StepLabel) (success : Bool) (duration : Duration) : String :=
  s!"{verdict success} {l.name} ({duration.briefText})"

def OutputStream.quoted (stream : OutputStream) (line : String) : OutputStream × String :=
  (stream, "│ " ++ line)

/-- A heading and the timeline of a history below it; nothing if the timeline is empty. -/
def History.summary (h : History) : List String :=
  let lines := timelineLines h
  if lines.isEmpty then [] else "Timeline:" :: lines.map ("  " ++ ·)

def Display.lines : Display → List (OutputStream × String)
  | .stepStarted label => [(.stdout, label.startLine)]
  | .outputLine stream line => [stream.quoted line]
  | .stepFinished label success duration => [(.stdout, label.finishLine success duration)]
  | .bufferedResult label o =>
    [(.stdout, label.startLine)] ++ o.stdout.map (OutputStream.quoted .stdout) ++
      o.stderr.map (OutputStream.quoted .stderr) ++
      [(.stdout, label.finishLine o.success o.duration)]
  | .stepSkipped label => [(.stdout, s!"- {label.name} skipped (condition not met)")]
  | .error message => [(.stderr, "✗ " ++ message)]
  | .parallelStarted label branches =>
    [(.stdout, s!"▶ {label.name} running {branches} branches in parallel")]
  | .parallelFinished label success =>
    [(.stdout, s!"{verdict success} {label.name} parallel branches finished")]
  | .totalDuration duration => [(.stdout, "Total execution time: " ++ duration.briefText)]
  | .timeline history => history.summary.map (.stdout, ·)

/-! ### The scheduler -/

def firingText (next : Option Timestamp) : String := (next.map Timestamp.plainText).getD "never"

def SchedulerNotice.lines : SchedulerNotice → List (OutputStream × String)
  | .starting asDaemon => if asDaemon then [] else [(.stdout, "Starting scheduler...")]
  | .noneEnabled =>
    [(.stdout, "No enabled schedules. Add one with \x60tp schedule add <file>\x60.")]
  | .registered s zone next =>
    [(.stdout, s!"  ✓ {s.displayName} [{s.id}] {s.cron} ({zone.name}), next run {firingText next}")]
  | .rejected id reason => [(.stderr, s!"  ✗ {id}: {reason}")]
  | .started asDaemon process =>
    if asDaemon then []
    else [(.stdout, s!"Scheduler running (PID: {process}). Press Ctrl+C to stop.")]
  | .runStarted name profile =>
    let detail := (profile.map fun p => s!" (profile {p})").getD ""
    [(.stdout, s!"Running scheduled workflow {name}{detail}")]
  | .runCompleted name => [(.stdout, s!"✓ Scheduled workflow {name} completed")]
  | .runFailed name error => [(.stderr, s!"✗ Scheduled workflow {name} failed: {error}")]
  | .stopping asDaemon => if asDaemon then [] else [(.stdout, "Stopping scheduler...")]

/-! ### Schedules -/

namespace Schedule

def stateText (s : Schedule) : String := if s.enabled then "enabled" else "disabled"

def nextRunText (s : Schedule) (now : Timestamp) : Computed String := do
  let cron ← Cron.parse s.cron
  match do return (← cron).next? (← Zone.resolve s.timezone) now with
  | .ok next => return firingText next
  | .error e => return s!"invalid ({ScheduleError.message e})"

def listing (s : Schedule) : List String :=
  [s!"{s.id}  {s.displayName}  {s.cron}  [{s.stateText}]", "    workflow: " ++ s.workflowPath] ++
    (s.timezone.map ("    timezone: " ++ ·)).toList ++
    (s.profile.map ("    profile:  " ++ ·)).toList ++
    (s.lastRun.map fun t => "    last run: " ++ t.plainText).toList

end Schedule

def DaemonStatus.lines (s : DaemonStatus) (process : Nat) (now : Timestamp) : List String :=
  let uptime := fun nanoseconds : Int =>
    let seconds := nanoseconds.toNat / Duration.second
    s!"  uptime:  {seconds / 3600}h {seconds % 3600 / 60}m {seconds % 60}s"
  [s!"Scheduler daemon is running (PID: {process})"] ++
    (s.start.map fun t => "  started: " ++ t.plainText).toList ++
    ((s.uptime? now).map uptime).toList

end Runbook
