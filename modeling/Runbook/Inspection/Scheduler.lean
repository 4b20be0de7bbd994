import Runbook.Inspection.Basic
import Runbook.Scheduler.Basic

/-!
The outlines of what a scheduler shows and of its reports.
-/

namespace Runbook

open Document (ofOption ofTexts)

/-- A notice; of the scheduler's process only whether it is the one given, and of the next firing
only whether there is one. -/
def SchedulerNotice.outline (process : Nat) : SchedulerNotice → Document
  | .starting asDaemon => .list [.text "starting", .bool asDaemon]
  | .noneEnabled => ofTexts ["no_enabled"]
  | .registered s zone next => .list [.text "registered", .text s.displayName, .text s.cron,
      .text zone.name, .bool next.isSome]
  | .rejected id reason => ofTexts ["rejected", id, reason]
  | .started asDaemon pid => .list [.text "started", .bool asDaemon, .bool (pid == process)]
  | .runStarted name profile => .list [.text "run_started", .text name, ofOption .text profile]
  | .runCompleted name => ofTexts ["run_completed", name]
  | .runFailed name error => ofTexts ["run_failed", name, error]
  | .stopping asDaemon => .list [.text "stopping", .bool asDaemon]

def SchedulerNotice.runName? : SchedulerNotice → Option String
  | .runStarted name _ => some name
  | .runCompleted name => some name
  | .runFailed name _ => some name
  | _ => none

/-- Notices with those of runs that stand together in the order of the schedules' names. -/
def SchedulerNotice.inOrder (notices : List SchedulerNotice) : List SchedulerNotice :=
  let stretches := notices.splitBy fun a b => a.runName?.isSome && b.runName?.isSome
  stretches.flatMap fun s => s.mergeSort fun a b =>
    match a.runName?, b.runName? with
    | some x, some y => decide (x ≤ y)
    | _, _ => true

def StartReport.outline (r : StartReport) : Document :=
  .object [("registered", ofTexts r.registered),
    ("rejected", .list (r.rejected.map fun (id, reason) => ofTexts [id, reason]))]

end Runbook
