import Runbook.Inspection.Basic
import Runbook.Workspace
import Runbook.Run.Workflow

/-!
The outlines of workspaces, and of runs: what was asked of the host, what was shown, and what was
recorded. What the branches of a step do falls in no fixed order; so where entries of branches stand
together, they are listed by the steps and branches that they belong to.
-/

namespace Runbook

open Document (ofNat ofOption ofBindings)

def Fact.outline : Fact → Document
  | .bool b => .bool b
  | .text s => .text s

def StepOutcome.outline (o : StepOutcome) : List Document :=
  [.bool o.success, ofOption .integer o.exitCode]

def Workspace.outline (w : Workspace) : Document :=
  .object [("variables", ofBindings w.vars),
    ("facts", .object (w.facts.map fun (name, fact) => (name, fact.outline))),
    ("choices", ofBindings w.choices),
    ("steps", .list (w.outcomes.map fun (index, o) => .list (ofNat index :: o.outline))),
    ("last", ofOption (fun o => .list o.outline) w.lastOutcome?)]

/-- A fact: a truth value or else a text. -/
def Fact.ofDocument : Document → Fact
  | .bool b => .bool b
  | d => .text (d.asText?.getD "")

def StepOutcome.ofDocuments (success exit : Document) : StepOutcome :=
  ⟨success.asBool?.getD false, match exit with
    | .integer n => some n
    | _ => none⟩

/-- The workspace with the variables, facts, choices and outcomes of steps that a document lists. -/
def Workspace.ofDocument (d : Document) : Workspace :=
  let fields := fun name => ((d.field? name).bind Document.asObject?).getD []
  let items := fun name => ((d.field? name).bind Document.asList?).getD []
  let text := fun v : Document => v.asText?.getD ""
  let w := (fields "variables").foldl (fun w (k, v) => w.setVariable k (text v)) Workspace.empty
  let w := (fields "facts").foldl (fun w (k, v) => w.setFact k (.ofDocument v)) w
  let w := (fields "choices").foldl (fun w (k, v) => w.setChoice k (text v)) w
  (items "steps").foldl (fun w step =>
    match step with
    | .list [.integer index, success, exit] =>
      w.setOutcome index.toNat (.ofDocuments success exit)
    | _ => w) w

end Runbook

namespace Runbook

open Document (ofNat ofOption ofTexts)

namespace StepLabel

def outline (l : StepLabel) : Document :=
  .list [.text l.name, .text l.kind, .text l.text, .bool l.conditional]

def place? (l : StepLabel) : Option (Nat × Nat) := l.branch.map (l.index, ·)

end StepLabel

def CommandRequest.outline (r : CommandRequest) : Document :=
  .object [("command", .text r.command), ("shell", ofOption ofTexts r.shell),
    ("dir", ofOption .text r.directory), ("timeout", ofOption Duration.outline r.timeout),
    ("mode", .text (if r.mode = .realtime then "realtime" else "buffered")),
    ("label", r.label.outline)]

def ResolvedValue.outline : ResolvedValue → Document
  | .command s => .object [("command", .text s)]
  | .choice s => .object [("choice", .text s)]
  | .prompt s => .object [("prompt", .text s)]

namespace Occurrence

def outlineAt (type : String) (index : Nat) (branch : Option Nat)
    (fields : List (String × Document)) : Document :=
  .object ([("type", .text type), ("step", ofNat index),
    ("branch", ofOption ofNat branch)] ++ fields)

def outline : Occurrence → Document
  | .runStarted name steps => .object [("type", .text "run_started"),
      ("name", ofOption .text name), ("steps", ofNat steps)]
  | .runCompleted _ => .object [("type", .text "run_completed")]
  | .runFailed error _ => .object [("type", .text "run_failed"), ("error", .text error)]
  | .stepSkipped index branch => outlineAt "step_skipped" index branch []
  | .stepCompleted index branch kind resolved exit _ => outlineAt "step_completed" index branch
      [("kind", .text kind), ("resolved", ofOption ResolvedValue.outline resolved),
        ("exit", ofOption .integer exit)]
  | .stepFailed index branch kind resolved exit error _ => outlineAt "step_failed" index branch
      [("kind", .text kind), ("resolved", ofOption ResolvedValue.outline resolved),
        ("exit", ofOption .integer exit), ("error", .text error)]
  | .stepRetried index branch attempt delay => outlineAt "step_retried" index branch
      [("attempt", ofNat attempt), ("delayMs", ofNat delay)]
  | .fallbackStarted index branch level command => outlineAt "fallback_started" index branch
      [("level", ofNat level), ("command", .text command)]
  | .parallelStarted index branches => .object [("type", .text "parallel_started"),
      ("step", ofNat index), ("branches", ofNat branches)]
  | .parallelFinished index success => .object [("type", .text "parallel_finished"),
      ("step", ofNat index), ("success", .bool success)]

def place? : Occurrence → Option (Nat × Nat)
  | .stepSkipped index branch => branch.map (index, ·)
  | .stepCompleted index branch .. => branch.map (index, ·)
  | .stepFailed index branch .. => branch.map (index, ·)
  | .stepRetried index branch .. => branch.map (index, ·)
  | .fallbackStarted index branch .. => branch.map (index, ·)
  | _ => none

end Occurrence

namespace Display

def outline : Display → Document
  | .stepStarted l => .list [.text "step_started", l.outline]
  | .outputLine .stdout line => ofTexts ["output_line", "stdout", line]
  | .outputLine .stderr line => ofTexts ["output_line", "stderr", line]
  | .stepFinished l success _ => .list [.text "step_finished", l.outline, .bool success]
  | .bufferedResult l o => .list [.text "buffered_result", l.outline, .bool o.success,
      ofOption .integer o.exitCode]
  | .stepSkipped l => .list [.text "step_skipped", l.outline]
  | .error message => ofTexts ["error", message]
  | .parallelStarted l branches => .list [.text "parallel_started", l.outline, ofNat branches]
  | .parallelFinished l success => .list [.text "parallel_finished", l.outline, .bool success]
  | .totalDuration _ => ofTexts ["total_duration"]
  | .timeline h => .list [.text "timeline", ofNat h.events.length]

def place? : Display → Option (Nat × Nat)
  | .stepStarted l => l.place?
  | .stepFinished l .. => l.place?
  | .bufferedResult l _ => l.place?
  | .stepSkipped l => l.place?
  | _ => none

end Display

def Question.outline : Question → Document
  | .choose message options => .object [("choose", .text message),
      ("options", .list (options.map fun o => ofTexts [o.id, o.label]))]
  | .enter message default => .object [("text", .text message),
      ("default", ofOption .text default)]

/-- Whether the entry of a branch may stand before that of another one. -/
def Run.mayPrecede (a b : Option (Nat × Nat) × Document) : Bool :=
  match a.1, b.1 with
  | some (i, j), some (k, l) => i < k || (i == k && j ≤ l)
  | _, _ => true

/-- Entries of steps, and of branches in the order of these where they stand together. -/
def Run.inOrder (entries : List (Option (Nat × Nat) × Document)) : Document :=
  let stretches := entries.splitBy fun a b => a.1.isSome && b.1.isSome
  .list ((stretches.flatMap fun s => s.mergeSort mayPrecede).map Prod.snd)

def Run.outline (r : Run) (effects : List Effect) : Document :=
  .object [("success", .bool r.isSuccess), ("failure", ofOption .text r.failure),
    ("calls", inOrder (effects.filterMap fun
      | .start request => some (request.label.place?, request.outline)
      | _ => none)),
    ("asked", .list (effects.filterMap fun
      | .ask question => some question.outline
      | _ => none)),
    ("checked", .list (effects.filterMap fun
      | .check path => some (.text path)
      | _ => none)),
    ("output", inOrder (effects.filterMap fun
      | .display d => some (d.place?, d.outline)
      | _ => none)),
    ("events", inOrder (r.history.events.map fun e =>
      (e.occurrence.place?, e.occurrence.outline))),
    ("historyName", ofOption .text r.history.workflowName),
    ("saved", ofNat (effects.filter fun
      | .save _ => true
      | _ => false).length),
    ("workspace", r.workspace.outline)]

end Runbook
