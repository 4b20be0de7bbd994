import Runbook.Proofs.CommandLedger
import Runbook.Proofs.ParallelMerge
import Runbook.Proofs.TryLevels

/-!
What a run step leaves in the workspace. Main statement: unless a try of its own command succeeds,
a run step changes nothing, whatever its fallbacks come to; and if one does, its capture rules bind
variables in turn to what they take from the lines of that try, and all else stays.
-/

namespace Runbook

open Program (Runs)

namespace RunStep

def announcesFallback (e : Exchange Effect.interface) : Bool :=
  (occurrence? e).any (·.isFallback)

/-- What the tries of a step's own command came to: all those before any fallback. -/
def ownOutcomes (es : RunTrace) : List CommandOutcome :=
  outcomes (es.takeWhile fun e => !announcesFallback e)

def bindCaptured (lines : List String) (vars : Bindings String) (rule : CaptureRule) :
    Bindings String :=
  match rule.extraction.apply lines with
  | .ok (some value) => vars.bind rule.variableName value
  | _ => vars

/-- Capture rules bind variables and change nothing else. -/
theorem eq_of_applyCaptures {rules : List CaptureRule} {lines : List String} {w captured : Workspace}
    (h : applyCaptures rules lines w = .ok captured) :
    captured = { w with vars := rules.foldl (bindCaptured lines) w.vars } := by
  induction rules generalizing w with
  | nil => exact (Except.ok.inj h).symm
  | cons rule rest ih =>
    obtain ⟨value?, htaken, hrest⟩ := applyCaptures_cons_eq_ok.mp h
    rw [ih hrest, List.foldl_cons, bindCaptured, htaken]
    cases value? <;> rfl

section Tries

variable {scope : RunScope} {request : CommandRequest} {retry : Retry} {made : UInt32} {es : RunTrace}
  {w : Workspace} {last final : CommandOutcome} {level : Nat} {fallbacks : List Fallback}

theorem announcesFallback_of_mem_tryTrace {e : Exchange Effect.interface} {o : CommandOutcome}
    (h : e ∈ tryTrace request o) : announcesFallback e = false := by
  have hnone : occurrence? e = none := by
    have hrecorded := recorded_tryTrace request o
    exact List.filterMap_eq_nil_iff.mp hrecorded e h
  rw [announcesFallback, hnone]
  rfl

theorem Attempted.announcesFallback (h : Attempted scope request retry made es last) :
    ∀ e ∈ es, announcesFallback e = false := by
  induction h with
  | settled _ => exact fun e => announcesFallback_of_mem_tryTrace
  | retried _ _ ih =>
    intro e he
    rcases List.mem_append.mp he with he | he
    · exact announcesFallback_of_mem_tryTrace he
    · rcases List.mem_cons.mp he with rfl | he
      · rfl
      · rcases List.mem_cons.mp he with rfl | he
        · rfl
        · exact ih e he

/-- What comes after the tries of a command is either nothing or announced. -/
theorem FellBack.takeWhile_eq_nil (h : FellBack scope w request last level fallbacks es final) :
    es.takeWhile (fun e => !RunStep.announcesFallback e) = [] := by
  cases h with
  | exhausted => rfl
  | recovered _ _ => rfl
  | failed _ _ _ => rfl

theorem Attempted.ownOutcomes_append {more : RunTrace}
    (h : Attempted scope request retry made es last)
    (hmore : more.takeWhile (fun e => !RunStep.announcesFallback e) = []) :
    ownOutcomes (es ++ more) = outcomes es := by
  have hes : ∀ e ∈ es, (!RunStep.announcesFallback e) = true := fun e he => by
    rw [h.announcesFallback e he]
    rfl
  rw [ownOutcomes, List.takeWhile_append_of_pos hes, hmore, List.append_nil]

/-- A run step comes down to the tries of its own command: if they failed it leaves the workspace
as it is, and else it captures from the one that succeeded. -/
theorem Executed.own {step : RunStep} {label : StepLabel} {result : RunStepResult}
    (h : Executed step scope label w es result) :
    (AllFailed (ownOutcomes es) ∧ result.workspace = w) ∨
      ∃ o, (ownOutcomes es).getLast? = some o ∧ AllFailed (ownOutcomes es).dropLast ∧
        o.success = true ∧ applyCaptures step.captures o.stdout w = .ok result.workspace := by
  cases h with
  | @captured _ o _ tries ho hcaptured =>
    obtain ⟨htried, hlast, _⟩ := tries.level
    have hown : ownOutcomes es = outcomes es := by
      simpa using tries.ownOutcomes_append (List.takeWhile_nil)
    exact .inr ⟨o, by rw [hown, hlast], by rw [hown]; exact htried.failed, ho, hcaptured⟩
  | fellBack tries ho others =>
    obtain ⟨htried, hlast, _⟩ := tries.level
    refine .inl ⟨?_, rfl⟩
    rw [tries.ownOutcomes_append others.takeWhile_eq_nil]
    exact (allFailed_iff hlast htried.failed).mpr ho

end Tries

/-- If no try of a run step's own command succeeded, the workspace is afterwards what it was before,
even if a fallback succeeded. If one did, facts, choices and outcomes of steps are what they were,
and the variables are what the capture rules, in their order, make of them with the lines of that
try: a variable has the value that the last of its rules to find any took, and if none did, the
value that it had. -/
theorem captured_on_success {step : RunStep} {scope : RunScope} {label : StepLabel} {w : Workspace}
    {es : RunTrace} {result : RunStepResult} (h : Runs (step.execute scope label w) es result) :
    ((∀ o ∈ ownOutcomes es, o.success = false) → result.workspace = w) ∧
    ∀ o ∈ ownOutcomes es, o.success = true →
      result.workspace.facts = w.facts ∧ result.workspace.choices = w.choices ∧
      result.workspace.outcomes = w.outcomes ∧ result.workspace.last = w.last ∧
      result.workspace.vars = step.captures.foldl (bindCaptured o.stdout) w.vars ∧
      ∀ name, result.workspace.variableNamed? name =
        (captured? step.captures o.stdout name).or (w.variableNamed? name) := by
  rcases (executed_of_runs h).own with ⟨hfailed, hsame⟩ | ⟨last, hlast, hdrop, hsuccess, hcaptured⟩
  · refine ⟨fun _ => hsame, fun o ho hsuccess => ?_⟩
    simp [hfailed o ho] at hsuccess
  · have hmem : last ∈ ownOutcomes es := List.mem_of_getLast? hlast
    refine ⟨fun hfailed => by simp [hfailed last hmem] at hsuccess, fun o ho hsuccess' => ?_⟩
    obtain rfl : o = last := by
      obtain ⟨front, hfront⟩ := List.getLast?_eq_some_iff.mp hlast
      rw [hfront, List.dropLast_concat] at hdrop
      rw [hfront] at ho
      rcases List.mem_append.mp ho with ho | ho
      · simp [hdrop o ho] at hsuccess'
      · exact List.mem_singleton.mp ho
    refine ⟨?_, ?_, ?_, ?_, ?_, variableNamed?_applyCaptures hcaptured⟩ <;>
      rw [eq_of_applyCaptures hcaptured]

/-- A command that is tried twice and captured from, with a fallback; the second rule finds
nothing. -/
def capturingTwice : RunStep :=
  ⟨"first", none, .count 1, none, false, [⟨"second", none, .never⟩],
    [⟨"v", .full⟩, ⟨"v", .lines 2 3⟩]⟩

/-- The first command prints a line with each outcome; the other one succeeds. -/
def printingTwice (first last : Bool) : Rehearsal :=
  ⟨[("first", [⟨first, some 1, ["bad"], [], false, .zero⟩, ⟨last, some 0, ["good"], [], false,
    .zero⟩])], ⟨true, some 0, ["other"], [], false, .zero⟩, [], [], .zero, []⟩

theorem captured_on_success_second :
    (∃ d : RunDriven Rehearsal RunStepResult,
      (capturingTwice.execute perseveringScope perseveringLabel .empty).drive Rehearsal.host
        (printingTwice false true) = some d ∧ d.result.workspace.variableNamed? "v" = some "good") ∧
    ∃ d : RunDriven Rehearsal RunStepResult,
      (capturingTwice.execute perseveringScope perseveringLabel .empty).drive Rehearsal.host
        (printingTwice false false) = some d ∧ d.result.outcome.success = true ∧
      d.result.workspace = .empty := by
  have hcaptured : ((capturingTwice.execute perseveringScope perseveringLabel .empty).drive
    Rehearsal.host (printingTwice false true)).map (fun d => ownOutcomes d.exchanges) = some
      [⟨false, some 1, ["bad"], [], false, .zero⟩, ⟨true, some 0, ["good"], [], false, .zero⟩] := by
    decide +kernel
  have hrecovered : ((capturingTwice.execute perseveringScope perseveringLabel .empty).drive
    Rehearsal.host (printingTwice false false)).map (fun d => (ownOutcomes d.exchanges,
      d.result.outcome.success)) = some ([⟨false, some 1, ["bad"], [], false, .zero⟩,
      ⟨false, some 0, ["good"], [], false, .zero⟩], true) := by
    decide +kernel
  obtain ⟨d, hd, hown⟩ := Option.map_eq_some_iff.mp hcaptured
  obtain ⟨d', hd', hown'⟩ := Option.map_eq_some_iff.mp hrecovered
  obtain ⟨hown', hsuccess⟩ := Prod.mk.inj hown'
  refine ⟨⟨d, hd, ?_⟩, d', hd', hsuccess, ?_⟩
  · have hmem : ⟨true, some 0, ["good"], [], false, .zero⟩ ∈ ownOutcomes d.exchanges := by
      rw [hown]
      exact List.mem_cons_of_mem _ List.mem_cons_self
    obtain ⟨_, _, _, _, _, hvars⟩ := (captured_on_success (Program.runs_of_drive hd)).2 _ hmem rfl
    rw [hvars "v"]
    decide +kernel
  · refine (captured_on_success (Program.runs_of_drive hd')).1 ?_
    rw [hown']
    decide

end RunStep

end Runbook
