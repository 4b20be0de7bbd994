import Runbook.Scheduler.Basic
import Runbook.Run.Rehearsal
import Runbook.System.Machine

/-!
Rehearsals of the scheduler: its files are those of a machine, its runs are rehearsals that cannot
ask anything, and what it does is noted.
-/

namespace Runbook

/-- A machine with rehearsed runs, the notices of the scheduler so far, the commands of its runs,
and for each run whether it is silent. -/
structure SchedulerRehearsal where
  machine : Machine
  runs : Rehearsal
  notices : List SchedulerNotice
  commands : List String
  silences : List Bool

namespace SchedulerRehearsal

def refusal : String := "scheduled runs cannot prompt"

def runHost : RunHost SchedulerRehearsal
  | s, .check path => ((s.machine.files.kindAt? s.machine.current path).isSome, s)
  | s, .ask _ => (.error refusal, s)
  | s, .start request => ((), { s with commands := s.commands ++ [request.command] })
  | s, effect =>
    let (reply, runs) := Rehearsal.host s.runs effect
    (reply, { s with runs })

def host : Host SchedulerCall.interface SchedulerRehearsal
  | s, .system call =>
    let (reply, machine) := s.machine.reply call
    (reply, { s with machine })
  | s, .notice n => ((), { s with notices := s.notices ++ [n] })
  | s, .execute isSilent workflow given =>
    let options : RunOptions := ⟨given, Backoff.standard, RunBounds.standard⟩
    let s := { s with silences := s.silences ++ [isSilent] }
    let d := (workflow.task options s.machine.current).ended runHost s
    match d.result with
    | .ok run => (.ok run.failure, d.state)
    | .error .bound => (.ok (some "The run has no end"), d.state)
    | .error .overflow => (.error .overflow, d.state)

def cleared (s : SchedulerRehearsal) : SchedulerRehearsal :=
  { s with notices := [], commands := [], silences := [] }

end SchedulerRehearsal

end Runbook
