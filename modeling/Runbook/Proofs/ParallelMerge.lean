import Mathlib.Data.List.Induction
import Runbook.Proofs.ParallelTrace
import Runbook.Run.Rehearsal

/-!
Variables after a parallel step. A branch ends with a copy of the whole workspace of its step, so a
merge hands back what a branch wrote, and just as well what it merely inherited. Main statement: a
variable that had no value takes that of the last branch that wrote one, and a variable that had a
value takes what the last branch has for it.
-/

namespace Runbook

open Program (Runs)

/-! ### What a branch wrote -/

inductive CaptureMark where
  | finished (outcome : CommandOutcome)
  | fellBack

def captureMark? (branch : Nat) (e : Exchange Effect.interface) : Option CaptureMark :=
  match e with
  | ⟨.finish request, outcome⟩ =>
    if request.label.branch = some branch then some (.finished outcome) else none
  | ⟨.record (.fallbackStarted _ place _ _), _⟩ =>
    if place = some branch then some .fellBack else none
  | _ => none

def captureMarks (branch : Nat) (es : RunTrace) : List CaptureMark :=
  es.filterMap (captureMark? branch)

/-- The lines of the first success that comes before any fallback. -/
def ownLines? : List CaptureMark → Option (List String)
  | [] => none
  | .fellBack :: _ => none
  | .finished o :: rest => if o.success then some o.stdout else ownLines? rest

/-- The value that the last of the rules for a variable takes from lines. -/
def captured? (rules : List CaptureRule) (lines : List String) (name : String) : Option String :=
  (rules.filterMap fun rule =>
    if rule.variableName = name then (rule.extraction.apply lines).toOption.join
    else none).getLast?

/-- The value that a branch wrote to a variable, as the exchanges of its step tell. -/
def Branch.written? (b : Branch) (branch : Nat) (es : RunTrace) (name : String) : Option String :=
  match b.action with
  | .run step => (ownLines? (captureMarks branch es)).bind fun lines =>
    captured? step.captures lines name
  | _ => none

/-- The values that the branches of a step wrote to a variable, in the order of the branches. -/
def writtenValues (branches : List Branch) (es : RunTrace) (name : String) :
    List (Option String) :=
  branches.zipIdx.map fun (b, i) => b.written? i es name

/-- The rules for a variable bind it to what the last of them that finds something takes. -/
theorem variableNamed?_applyCaptures {rules : List CaptureRule} {lines : List String}
    {w captured : Workspace} (h : RunStep.applyCaptures rules lines w = .ok captured)
    (name : String) : captured.variableNamed? name =
      (captured? rules lines name).or (w.variableNamed? name) := by
  induction rules generalizing w with
  | nil =>
    obtain rfl := Except.ok.inj h
    rfl
  | cons rule rest ih =>
    obtain ⟨value?, htaken, hrest⟩ := RunStep.applyCaptures_cons_eq_ok.mp h
    rw [ih hrest]
    cases value? with
    | none => simp [captured?, htaken, Except.toOption]
    | some value =>
      by_cases hname : rule.variableName = name
      · cases hothers : (captured? rest lines name) <;>
          simp_all [captured?, List.getLast?_cons, Except.toOption]
      · simp [captured?, hname]

section Marks

variable {branch : Nat} {es : RunTrace}

@[simp] theorem captureMarks_nil : captureMarks branch [] = [] := rfl

@[simp] theorem captureMarks_append (es fs : RunTrace) :
    captureMarks branch (es ++ fs) = captureMarks branch es ++ captureMarks branch fs :=
  List.filterMap_append

theorem captureMarks_cons_of_none {e : Exchange Effect.interface}
    (h : captureMark? branch e = none) (es : RunTrace) :
    captureMarks branch (e :: es) = captureMarks branch es :=
  List.filterMap_cons_none h

theorem captureMarks_eq_nil_of_isDue {guard : Option Condition} {scope : RunScope} {w : Workspace}
    {due : Bool} (h : Runs (Step.isDue guard scope w) es due) : captureMarks branch es = [] := by
  refine List.filterMap_eq_nil_iff.mpr fun e he => ?_
  obtain ⟨path, b, rfl⟩ := Step.isCheck_of_runs_isDue h e he
  rfl

theorem captureMarks_eq_nil_of_isPick (h : Pool.IsPick Task.pick es) :
    captureMarks branch es = [] := by
  obtain ⟨places, place, hpick⟩ := h
  obtain rfl := Task.runs_pick hpick
  rfl

theorem captureMark?_closing (label : StepLabel) (command : String) (o : CommandOutcome)
    (milliseconds : Nat) (stamp : Stamp) :
    captureMark? branch ⟨.record (RunStep.closing label command o milliseconds), stamp⟩ = none := by
  unfold RunStep.closing
  cases o.success <;> rfl

end Marks

namespace RunStep

variable {scope : RunScope} {request : CommandRequest} {retry : Retry} {made : UInt32}
  {es : RunTrace} {o : CommandOutcome} {branch : Nat}

theorem captureMarks_tryTrace (request : CommandRequest) (o : CommandOutcome) :
    captureMarks branch (tryTrace request o) =
      if request.label.branch = some branch then [.finished o] else [] := by
  unfold tryTrace captureMarks
  by_cases hmode : request.mode = .buffered <;>
    by_cases hbranch : request.label.branch = some branch <;>
      simp [List.filterMap_cons, captureMark?, hmode, hbranch]

theorem captureMarks_retried (label : StepLabel) (number : UInt32) (delay : Duration)
    (stamp : Stamp) (es : RunTrace) : captureMarks branch
      (⟨.record (retryOccurrence scope label number), stamp⟩ :: ⟨.pause label delay, ()⟩ :: es) =
        captureMarks branch es := rfl

/-- The tries of a command tell of its success, or else of nothing. -/
theorem Attempted.ownLines? (h : Attempted scope request retry made es o)
    (hbranch : request.label.branch = some branch) (more : List CaptureMark) :
    ownLines? (captureMarks branch es ++ more) =
      if o.success then some o.stdout else Runbook.ownLines? more := by
  induction h with
  | settled _ => simp [captureMarks_tryTrace, hbranch, Runbook.ownLines?]
  | @retried made o stamp es last hagain _ ih =>
    have ho : o.success = false := by
      simp only [Bool.or_eq_false_iff] at hagain
      exact hagain.1
    rw [captureMarks_append, captureMarks_tryTrace, captureMarks_retried, if_pos hbranch,
      List.singleton_append, List.cons_append]
    simp only [Runbook.ownLines?, ho, Bool.false_eq_true, if_false]
    exact ih

theorem Attempted.captureMarks_eq_nil (h : Attempted scope request retry made es o)
    (hbranch : request.label.branch ≠ some branch) : captureMarks branch es = [] := by
  induction h with
  | settled _ => simp [captureMarks_tryTrace, hbranch]
  | retried _ _ ih =>
    rw [captureMarks_append, captureMarks_tryTrace, captureMarks_retried, if_neg hbranch, ih]
    rfl

variable {w : Workspace} {level : Nat} {fallbacks : List Fallback} {last final : CommandOutcome}

theorem FellBack.ownLines? (h : FellBack scope w request last level fallbacks es final)
    (hbranch : request.label.branch = some branch) : ownLines? (captureMarks branch es) = none := by
  cases h with
  | exhausted => rfl
  | recovered _ _ => simp [captureMarks, captureMark?, hbranch, Runbook.ownLines?]
  | failed _ _ _ => simp [captureMarks, captureMark?, hbranch, Runbook.ownLines?]

theorem FellBack.captureMarks_eq_nil (h : FellBack scope w request last level fallbacks es final)
    (hbranch : request.label.branch ≠ some branch) : captureMarks branch es = [] := by
  induction h with
  | exhausted => rfl
  | recovered tries _ =>
    rw [captureMarks_cons_of_none (by simp [captureMark?, hbranch])]
    exact tries.captureMarks_eq_nil hbranch
  | failed tries _ _ ih =>
    rw [captureMarks_cons_of_none (by simp [captureMark?, hbranch]), captureMarks_append,
      tries.captureMarks_eq_nil hbranch, ih]
    rfl

/-- A run step changes a variable as its captures say, if its own command succeeded. -/
theorem Executed.variableNamed?_eq {step : RunStep} {label : StepLabel} {result : RunStepResult}
    (h : Executed step scope label w es result) (hlabel : label.branch = some branch)
    (name : String) : result.workspace.variableNamed? name =
      ((ownLines? (captureMarks branch es)).bind fun lines =>
        captured? step.captures lines name).or (w.variableNamed? name) := by
  cases h with
  | captured tries ho hcaptured =>
    have hlines := tries.ownLines? hlabel []
    rw [List.append_nil, if_pos ho] at hlines
    rw [hlines, variableNamed?_applyCaptures hcaptured]
    rfl
  | fellBack tries ho others =>
    rw [captureMarks_append, tries.ownLines? hlabel, ho, others.ownLines? hlabel]
    rfl

theorem Executed.captureMarks_eq_nil {step : RunStep} {label : StepLabel} {result : RunStepResult}
    (h : Executed step scope label w es result) (hlabel : label.branch ≠ some branch) :
    captureMarks branch es = [] := by
  cases h with
  | captured tries _ _ => exact tries.captureMarks_eq_nil hlabel
  | fellBack tries _ others =>
    rw [captureMarks_append, tries.captureMarks_eq_nil hlabel, others.captureMarks_eq_nil hlabel]
    rfl

theorem captureMarks_take {started finished : Stamp} {inner : RunTrace} {label : StepLabel}
    {command : String} {milliseconds : Nat} {stamp : Stamp} :
    captureMarks branch (⟨.clock, started⟩ :: (inner ++ [⟨.clock, finished⟩,
      ⟨.record (closing label command o milliseconds), stamp⟩])) = captureMarks branch inner := by
  rw [captureMarks_cons_of_none rfl, captureMarks_append, captureMarks_cons_of_none rfl,
    captureMarks_cons_of_none (captureMark?_closing ..), captureMarks_nil, List.append_nil]

end RunStep

/-! ### Branches -/

namespace Branch

variable {b : Branch} {scope : RunScope} {label : StepLabel} {branch : Nat} {w : Workspace}
  {es : RunTrace} {e : End}

theorem written?_eq_none (h : captureMarks branch es = []) (name : String) :
    b.written? branch es name = none := by
  unfold written?
  rw [h]
  cases b.action <;> rfl

theorem written?_congr {fs : RunTrace} (h : captureMarks branch es = captureMarks branch fs)
    (name : String) : b.written? branch es name = b.written? branch fs name := by
  unfold written?
  rw [h]

/-- A branch ends with its own copy of the workspace, changed by what it wrote. -/
theorem Taken.variableNamed?_eq (h : b.Taken scope label branch w es e)
    (hlabel : label.branch = some branch) (name : String) :
    e.workspace.variableNamed? name =
      (b.written? branch es name).or (w.variableNamed? name) := by
  cases h with
  | skipped hdue =>
    rw [written?_eq_none]
    · rfl
    · rw [captureMarks_append, captureMarks_eq_nil_of_isDue hdue]
      rfl
  | run hdue haction htake =>
    obtain ⟨started, inner, final, finished, milliseconds, stamp, rfl, hfinal, rfl⟩ :=
      RunStep.executed_of_runs_take htake
    rw [written?, haction, captureMarks_append, captureMarks_eq_nil_of_isDue hdue,
      RunStep.captureMarks_take, List.nil_append]
    exact hfinal.variableNamed?_eq hlabel name
  | fail hdue haction hfail =>
    obtain ⟨stamp, rfl, rfl⟩ := Step.runs_fail hfail
    rw [written?, haction]
    rfl

theorem Taken.captureMarks_eq_nil (h : b.Taken scope label branch w es e) {other : Nat}
    (hlabel : label.branch ≠ some other) : captureMarks other es = [] := by
  cases h with
  | skipped hdue =>
    rw [captureMarks_append, captureMarks_eq_nil_of_isDue hdue]
    rfl
  | run hdue _ htake =>
    obtain ⟨started, inner, final, finished, milliseconds, stamp, rfl, hfinal, rfl⟩ :=
      RunStep.executed_of_runs_take htake
    rw [captureMarks_append, captureMarks_eq_nil_of_isDue hdue, RunStep.captureMarks_take,
      hfinal.captureMarks_eq_nil hlabel]
    rfl
  | fail hdue _ hfail =>
    obtain ⟨stamp, rfl, rfl⟩ := Step.runs_fail hfail
    rw [captureMarks_append, captureMarks_eq_nil_of_isDue hdue]
    rfl

end Branch

theorem writtenValues_congr {branches : List Branch} {es fs : RunTrace}
    (h : ∀ i, captureMarks i es = captureMarks i fs) (name : String) :
    writtenValues branches es name = writtenValues branches fs name :=
  List.map_congr_left fun _ _ => Branch.written?_congr (h _) name

/-! ### Merging -/

/-- What a variable has after the merges: each branch brings what it wrote, or else the value from
before the step. -/
def mergedValue (before : Option String) (written : List (Option String)) : Option String :=
  written.foldl (fun value own => (own.or before).or value) before

theorem mergedValue_none (written : List (Option String)) :
    mergedValue none written = (written.filterMap id).getLast? := by
  induction written using List.reverseRecOn with
  | nil => rfl
  | append_singleton others own ih =>
    rw [mergedValue, List.foldl_concat]
    change (own.or none).or (mergedValue none others) = _
    rw [ih]
    cases own <;> simp

theorem mergedValue_some (old : String) (written : List (Option String)) :
    mergedValue (some old) written = some ((written.getLast?.join).getD old) := by
  induction written using List.reverseRecOn with
  | nil => rfl
  | append_singleton others own _ =>
    rw [mergedValue, List.foldl_concat]
    cases own <;> simp

theorem mergedValue_of_none_written {before : Option String} {written : List (Option String)}
    (h : ∀ own ∈ written, own = none) : mergedValue before written = before := by
  unfold mergedValue
  induction written with
  | nil => rfl
  | cons own others ih =>
    obtain rfl := h own List.mem_cons_self
    rw [List.foldl_cons, Option.none_or, Option.or_self]
    exact ih fun own hown => h own (List.mem_cons_of_mem _ hown)

namespace Run

variable {scope : RunScope} {branches : List Branch} {label : StepLabel} {w : Workspace}

theorem variableNamed?_mergeAll (w : Workspace) (ends : List Branch.End) (name : String) :
    (mergeAll w ends).variableNamed? name =
      (ends.map fun e => e.workspace.variableNamed? name).foldl (fun value own => own.or value)
        (w.variableNamed? name) := by
  unfold mergeAll
  induction ends generalizing w with
  | nil => rfl
  | cons e rest ih =>
    rw [List.foldl_cons, ih, Workspace.variableNamed?_merge]
    rfl

theorem BranchesTaken.captureMarks_eq {index : Nat} {parts : List (RunTrace × Branch.End)}
    (h : BranchesTaken scope branches index w parts) {woven : RunTrace}
    (hwoven : Woven (Pool.IsPick Task.pick) (parts.map Prod.fst) woven) {i : Nat}
    (hi : i < parts.length) : captureMarks i woven = captureMarks i parts[i].1 := by
  have hpart : (parts.map Prod.fst)[i]? = some parts[i].1 := by simp [hi]
  refine hwoven.filterMap_eq (captureMark? i) (fun _ => captureMarks_eq_nil_of_isPick) hpart
    fun j other hj hne => ?_
  obtain ⟨hlt, rfl⟩ := List.getElem?_eq_some_iff.mp hj
  have hj' : j < parts.length := by simpa using hlt
  have htaken := h.taken (h.length_eq ▸ hj') hj'
  rw [List.getElem_map]
  exact htaken.captureMarks_eq_nil fun heq => hne (Option.some.inj heq)

theorem BranchesTaken.values_eq {index : Nat} {parts : List (RunTrace × Branch.End)}
    (h : BranchesTaken scope branches index w parts) {woven : RunTrace}
    (hwoven : Woven (Pool.IsPick Task.pick) (parts.map Prod.fst) woven) (name : String) :
    (parts.map Prod.snd).map (fun e => e.workspace.variableNamed? name) =
      (writtenValues branches woven name).map fun own => own.or (w.variableNamed? name) := by
  refine List.ext_getElem (by simp [writtenValues, h.length_eq]) fun i hi _ => ?_
  have hi' : i < parts.length := by simpa using hi
  have htaken := h.taken (h.length_eq ▸ hi') hi'
  simp only [writtenValues, List.getElem_map, List.getElem_zipIdx, Nat.zero_add]
  rw [htaken.variableNamed?_eq rfl, Branch.written?_congr (h.captureMarks_eq hwoven hi')]

theorem ParallelTaken.variableNamed?_eq {es : RunTrace} {e : StepEnd}
    (h : ParallelTaken scope branches label w es e) (name : String) :
    e.workspace.variableNamed? name =
      mergedValue (w.variableNamed? name) (writtenValues branches es name) := by
  cases h with
  | @joined parts woven success opened closed hparts hwoven _ =>
    -- around the exchanges of the branches, the step leaves no mark
    have hmarks : ∀ i, captureMarks i (⟨.display (.parallelStarted label branches.length), ()⟩ ::
        ⟨.record (.parallelStarted label.index branches.length), opened⟩ :: (woven ++
        [⟨.display (.parallelFinished label success), ()⟩,
          ⟨.record (.parallelFinished label.index success), closed⟩])) = captureMarks i woven := by
      intro i
      rw [captureMarks_cons_of_none rfl, captureMarks_cons_of_none rfl, captureMarks_append]
      exact List.append_nil _
    rw [writtenValues_congr hmarks]
    change (mergeAll w (parts.map Prod.snd)).variableNamed? name = _
    rw [variableNamed?_mergeAll, hparts.values_eq hwoven, List.foldl_map]
    rfl

theorem StepTaken.variableNamed?_eq {step : Step} {index : Nat} {es : RunTrace} {e : StepEnd}
    (h : StepTaken scope step index w es e) (hbody : step.body = .parallel branches)
    (name : String) : e.workspace.variableNamed? name =
      mergedValue (w.variableNamed? name) (writtenValues branches es name) := by
  cases h with
  | skipped hdue =>
    rw [mergedValue_of_none_written]
    intro own hown
    obtain ⟨⟨b, i⟩, _, rfl⟩ := List.mem_map.mp hown
    refine Branch.written?_eq_none ?_ name
    rw [captureMarks_append, captureMarks_eq_nil_of_isDue hdue]
    rfl
  | action _ haction _ => simp [hbody] at haction
  | parallel hdue hparallel htaken =>
    obtain rfl := StepBody.parallel.inj (hbody.symm.trans hparallel)
    rw [htaken.variableNamed?_eq, writtenValues_congr]
    intro i
    rw [captureMarks_append, captureMarks_eq_nil_of_isDue hdue, List.nil_append]

/-! ### Accepted workflows -/

/-- What a variable comes to in a parallel step, whatever the host replies and whichever branch it
picks: it keeps its value if no branch wrote it; without a value it takes that of the last branch
that wrote one; with a value only the last branch of all can change it. -/
theorem variable_after_parallel {σ : Type} {host : RunHost σ} {s : σ} {bounds : RunBounds}
    {step : Step} {index : Nat} {d : RunDriven σ StepEnd} (haccepted : scope.workflow.IsAccepted)
    (hstep : scope.workflow.steps[index]? = some step) (hbody : step.body = .parallel branches)
    (hd : (takeStep bounds scope step index w).drive host s = some d) (name : String) :
    ((∀ own ∈ writtenValues branches d.exchanges name, own = none) →
      d.result.workspace.variableNamed? name = w.variableNamed? name) ∧
    (w.variableNamed? name = none → d.result.workspace.variableNamed? name =
      ((writtenValues branches d.exchanges name).filterMap id).getLast?) ∧
    ∀ old, w.variableNamed? name = some old → d.result.workspace.variableNamed? name =
      some ((writtenValues branches d.exchanges name).getLast?.join.getD old) := by
  have hwell := haccepted.isWellFormed step (List.mem_of_getElem? hstep)
  have htaken := stepTaken_of_runs hwell (Program.runs_of_drive hd)
  have hvalue := htaken.variableNamed?_eq hbody name
  refine ⟨fun hnone => ?_, fun hfresh => ?_, fun old hold => ?_⟩
  · rw [hvalue, mergedValue_of_none_written hnone]
  · rw [hvalue, hfresh, mergedValue_none]
  · rw [hvalue, hold, mergedValue_some]

/-- A document with one parallel step; of its two branches only the first captures. -/
def capturingDocument : Document :=
  .object [("steps", .list [.object [("parallel", .list [
    .object [("captures", .list [.object [("as", .text "v")]]), ("run", .text "first")],
    .object [("run", .text "second")]])]])]

def capturingBranches : List Branch :=
  [⟨none, .run ⟨"first", none, .never, none, false, [], [⟨"v", .full⟩]⟩⟩,
    ⟨none, .run ⟨"second", none, .never, none, false, [], []⟩⟩]

def capturingScope : RunScope :=
  ⟨⟨none, none, none, [], [⟨none, .parallel capturingBranches⟩], ⟨none, none, []⟩⟩, [], none,
    .standard, 1⟩

theorem isAccepted_capturing : capturingScope.workflow.IsAccepted := ⟨capturingDocument, _, rfl, rfl⟩

def printing (line : String) : Rehearsal :=
  ⟨[], ⟨true, some 0, [line], [], false, .zero⟩, [], [], .zero, []⟩

/-- The variable had no value, so it keeps the one that the first branch wrote. -/
theorem variable_after_parallel_fresh : ∃ d : RunDriven Rehearsal StepEnd,
    (takeStep ⟨1, 100⟩ capturingScope ⟨none, .parallel capturingBranches⟩ 0 .empty).drive
      Rehearsal.host (printing "new") = some d ∧
    d.result.workspace.variableNamed? "v" = some "new" := by
  have hstep : capturingScope.workflow.steps[0]? = some ⟨none, .parallel capturingBranches⟩ := rfl
  have hd : (takeStep ⟨1, 100⟩ capturingScope ⟨none, .parallel capturingBranches⟩ 0 .empty).drive
    Rehearsal.host (printing "new") = some _ := rfl
  exact ⟨_, hd, (variable_after_parallel isAccepted_capturing hstep rfl hd "v").2.1 rfl⟩

/-- Only the first branch wrote the variable, and the value is lost: the second branch hands back
the one that it inherited. -/
theorem written_value_lost : ∃ d : RunDriven Rehearsal StepEnd,
    (takeStep ⟨1, 100⟩ capturingScope ⟨none, .parallel capturingBranches⟩ 0
      (Workspace.empty.setVariable "v" "old")).drive Rehearsal.host (printing "new") = some d ∧
    writtenValues capturingBranches d.exchanges "v" = [some "new", none] ∧
    d.result.workspace.variableNamed? "v" = some "old" :=
  ⟨_, rfl, rfl, rfl⟩

end Run

end Runbook
