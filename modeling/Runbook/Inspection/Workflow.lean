import Runbook.Inspection.Basic
import Runbook.Workflow.Basic

/-!
The outlines of workflows: their steps with everything that was left out filled in.
-/

namespace Runbook

open Document (ofNat ofOption ofTexts ofBindings)

def Document.single (name : String) (value : Document) : Document := .object [(name, value)]

def Retry.outline : Retry → Document
  | .count n => ofNat n.toNat
  | .forever => .text "forever"

def FactStatus.name : FactStatus → String
  | .ready => "ready"
  | .failed => "failed"
  | .pending => "pending"

mutual

def Condition.outline : Condition → Document
  | .fileExists path => .single "file" (.text path)
  | .varExists name => .single "varExists" (.text name)
  | .varEquals values => .single "varEquals" (ofBindings values)
  | .hasVar name => .single "has" (.text name)
  | .factStatus fact status => .object [("fact", .text fact), ("is", .text status.name)]
  | .lastStep success => .single "lastStep" (.bool success)
  | .choiceMade name => .single "choice" (.text name)
  | .all conditions => .single "all" (.list (Condition.outlines conditions))
  | .any conditions => .single "any" (.list (Condition.outlines conditions))
  | .not condition => .single "not" condition.outline

def Condition.outlines : List Condition → List Document
  | [] => []
  | c :: rest => c.outline :: Condition.outlines rest

end

def Extraction.outline : Extraction → Document
  | .full => .text "full"
  | .pattern source => .single "regex" (.text source)
  | .jsonPath path => .single "json" (.text path)
  | .yamlPath path => .single "yaml" (.text path)
  | .keyValue key => .single "kv" (.text key)
  | .after mark => .single "after" (.text mark)
  | .before mark => .single "before" (.text mark)
  | .between first second => .single "between" (ofTexts [first, second])
  | .lines first last => .single "line" (.list [.integer first.toInt, .integer last.toInt])

def CaptureRule.outline (r : CaptureRule) : Document :=
  .object [("as", .text r.variableName), ("capture", r.extraction.outline)]

def Fallback.outline : List Fallback → Document
  | [] => .null
  | f :: rest => .object [("run", .text f.command),
      ("timeout", ofOption Duration.outline f.timeout), ("retry", f.retry.outline),
      ("onError", outline rest)]

def RunStep.outline (r : RunStep) : Document :=
  .object [("command", .text r.command), ("timeout", ofOption Duration.outline r.timeout),
    ("retry", r.retry.outline), ("shell", ofOption ofTexts r.shell),
    ("continue", .bool r.continueOnError), ("onError", Fallback.outline r.fallbacks),
    ("captures", .list (r.captures.map CaptureRule.outline))]

def Action.outline : Action → Document
  | .run step => step.outline
  | .choose step => .object [("message", .text step.message),
      ("options", .list (step.options.map fun o => ofTexts [o.id, o.label])),
      ("as", ofOption .text step.storeAs), ("variable", .text step.variableName)]
  | .prompt step => .object [("message", .text step.message), ("as", .text step.storeAs),
      ("default", ofOption .text step.default)]
  | .fail message => .single "message" (.text message)

def Condition.outlineGuarded (guard : Option Condition) (kind : String) (body : Document) :
    Document :=
  .object [("kind", .text kind), ("when", ofOption Condition.outline guard), ("body", body)]

def Branch.outline (b : Branch) : Document :=
  Condition.outlineGuarded b.guard b.action.kind b.action.outline

def Step.outline (s : Step) : Document :=
  Condition.outlineGuarded s.guard s.body.kind <| match s.body with
    | .action action => action.outline
    | .parallel branches => .list (branches.map Branch.outline)

def Document.ofStepLines (lines : List (Nat × Nat)) : Document :=
  .list (lines.map fun (step, line) => .list [ofNat step, ofNat line])

def Workflow.outline (w : Workflow) : Document :=
  .object [("name", ofOption .text w.name), ("baseDir", ofOption .text w.baseDir),
    ("shell", ofOption ofTexts w.shell),
    ("profiles", .list (w.profiles.map fun p =>
      .object [("name", .text p.name), ("vars", ofBindings p.vars)])),
    ("steps", .list (w.steps.map Step.outline)),
    ("stepLines", .ofStepLines w.source.stepLines)]

end Runbook
