import Runbook.Proofs.ParallelTrace
import Runbook.Proofs.Timeless
import Runbook.Run.Rehearsal

/-!
The grammar of histories. Main statement: the events of a run are its beginning, a block for each
step that was reached, in the order of the steps, and its end; every block but the last lets the
run go on, and the run succeeds if the last does so too and no step is left.
-/

namespace Runbook

open Program (Runs)

/-! ### Run steps -/

def retries (scope : RunScope) (index : Nat) (branch : Option Nat) (made n : Nat) :
    List Occurrence :=
  (List.range' made n).map fun i =>
    .stepRetried index branch (RunStep.retryNumber (i + 1))
      (scope.backoff.delay (i + 1)).milliseconds

/-- Fallbacks from a level on, each with its retries. -/
inductive Levels (scope : RunScope) (index : Nat) (branch : Option Nat) :
    Nat → List Fallback → List Occurrence → Prop where
  | nil {level fallbacks} : Levels scope index branch level fallbacks []
  | next {level f rest command n os} (more : Levels scope index branch (level + 1) rest os) :
    Levels scope index branch level (f :: rest)
      (.fallbackStarted index branch level command :: (retries scope index branch 0 n ++ os))

/-- The block of a run step, and whether it succeeded: the retries of its own command, the levels
of its fallbacks, and what closes it. -/
inductive RunBlock (scope : RunScope) (index : Nat) (branch : Option Nat) (step : RunStep) :
    List Occurrence → Bool → Prop where
  | completed {n levels resolved code milliseconds}
      (h : Levels scope index branch 1 step.fallbacks levels) :
    RunBlock scope index branch step (retries scope index branch 0 n ++ levels ++
      [.stepCompleted index branch "run" resolved code milliseconds]) true
  | failed {n levels resolved code error milliseconds}
      (h : Levels scope index branch 1 step.fallbacks levels) :
    RunBlock scope index branch step (retries scope index branch 0 n ++ levels ++
      [.stepFailed index branch "run" resolved code error milliseconds]) false

namespace RunStep

variable {scope : RunScope} {request : CommandRequest} {retry : Retry} {es : RunTrace}

@[simp] theorem recorded_tryTrace (request : CommandRequest) (o : CommandOutcome) :
    recorded (tryTrace request o) = [] := by
  unfold tryTrace
  split <;> rfl

/-- The word counts the retries made as long as it can. -/
theorem Attempted.recorded_eq {number : UInt32} {o : CommandOutcome}
    (h : Attempted scope request retry number es o) (made : Nat)
    (hnumber : number.toNat = retryNumber made) :
    ∃ n, recorded es = retries scope request.label.index request.label.branch made n := by
  induction h generalizing made with
  | settled _ => exact ⟨0, recorded_tryTrace _ _⟩
  | @retried number o stamp es last _ _ ih =>
    have hnext := toNat_following_eq hnumber
    obtain ⟨n, hn⟩ := ih (made + 1) hnext
    refine ⟨n + 1, ?_⟩
    rw [recorded_append, recorded_tryTrace, recorded_record, recorded_cons_of_none rfl, hn,
      retryOccurrence, hnext, delay_retryNumber]
    rfl

theorem FellBack.levels {w : Workspace} {last final : CommandOutcome} {level : Nat}
    {fallbacks : List Fallback} (h : FellBack scope w request last level fallbacks es final) :
    Levels scope request.label.index request.label.branch level fallbacks (recorded es) := by
  induction h with
  | exhausted => exact .nil
  | recovered tries _ =>
    obtain ⟨n, hn⟩ := tries.recorded_eq 0 rfl
    rw [recorded_record, hn, ← List.append_nil (retries ..)]
    exact .next .nil
  | failed tries _ _ ih =>
    obtain ⟨n, hn⟩ := tries.recorded_eq 0 rfl
    rw [recorded_record, recorded_append, hn]
    exact .next ih

theorem Executed.levels {step : RunStep} {label : StepLabel} {w : Workspace}
    {result : RunStepResult} (h : Executed step scope label w es result) :
    ∃ n os, recorded es = retries scope label.index label.branch 0 n ++ os ∧
      Levels scope label.index label.branch 1 step.fallbacks os := by
  cases h with
  | captured tries _ _ =>
    obtain ⟨n, hn⟩ := tries.recorded_eq 0 rfl
    exact ⟨n, [], by rw [hn, List.append_nil]; rfl, .nil⟩
  | @fellBack es o more final tries _ others =>
    obtain ⟨n, hn⟩ := tries.recorded_eq 0 rfl
    exact ⟨n, recorded more, by rw [recorded_append, hn]; rfl, others.levels⟩

theorem recorded_of_runs_take {step : RunStep} {label : StepLabel} {slot : Nat} {w : Workspace}
    {result : RunStepResult} (h : Runs (step.take scope label slot w) es result) :
    ∃ inner final n os milliseconds, Executed step scope label w inner final ∧
      Levels scope label.index label.branch 1 step.fallbacks os ∧
      recorded es = retries scope label.index label.branch 0 n ++ os ++
        [closing label (step.request scope label w).command final.outcome milliseconds] ∧
      result = ⟨final.outcome,
        final.workspace.setOutcome slot ⟨final.outcome.success, final.outcome.exitCode⟩⟩ := by
  obtain ⟨started, inner, final, finished, milliseconds, stamp, rfl, hfinal, hresult⟩ :=
    executed_of_runs_take h
  obtain ⟨n, os, hinner, hlevels⟩ := hfinal.levels
  refine ⟨inner, final, n, os, milliseconds, hfinal, hlevels, ?_, hresult⟩
  rw [recorded_cons_of_none rfl, recorded_append, recorded_cons_of_none rfl, recorded_record,
    recorded_nil, hinner]

theorem runBlock_of_runs_take {step : RunStep} {label : StepLabel} {slot : Nat} {w : Workspace}
    {result : RunStepResult} (h : Runs (step.take scope label slot w) es result) :
    RunBlock scope label.index label.branch step (recorded es) result.outcome.success := by
  obtain ⟨_, final, n, os, milliseconds, _, hlevels, hes, rfl⟩ := recorded_of_runs_take h
  rw [hes]
  unfold closing
  cases hsuccess : final.outcome.success with
  | true => exact .completed hlevels
  | false => exact .failed hlevels

end RunStep

/-! ### Branches and steps -/

/-- The exchanges of a branch with its block, and whether the branch succeeded. A branch is skipped
just if its condition is false where the step began. -/
inductive BranchBlock (scope : RunScope) (index : Nat) (w : Workspace) (b : Branch)
    (branch : Nat) : RunTrace → Bool → Prop where
  | skipped {checks es} (hdue : Runs (Step.isDue b.guard scope w) checks false)
      (h : recorded es = [.stepSkipped index (some branch)]) :
    BranchBlock scope index w b branch (checks ++ es) true
  | run {checks es step success} (hdue : Runs (Step.isDue b.guard scope w) checks true)
      (haction : b.action = .run step)
      (h : RunBlock scope index (some branch) step (recorded es) success) :
    BranchBlock scope index w b branch (checks ++ es) (success || step.continueOnError)
  | fail {checks es message text} (hdue : Runs (Step.isDue b.guard scope w) checks true)
      (haction : b.action = .fail message)
      (h : recorded es = [.stepFailed index (some branch) "fail" none none text 0]) :
    BranchBlock scope index w b branch (checks ++ es) false

/-- The exchanges of a step with its block, and whether the run halts after it. -/
inductive StepBlock (scope : RunScope) (step : Step) (index : Nat) (w : Workspace) :
    RunTrace → Bool → Prop where
  | skipped {checks es} (hdue : Runs (Step.isDue step.guard scope w) checks false)
      (h : recorded es = [.stepSkipped index none]) :
    StepBlock scope step index w (checks ++ es) false
  | run {checks es run success} (hdue : Runs (Step.isDue step.guard scope w) checks true)
      (hbody : step.body = .action (.run run))
      (h : RunBlock scope index none run (recorded es) success) :
    StepBlock scope step index w (checks ++ es) (!success && !run.continueOnError)
  | answered {checks es action resolved milliseconds}
      (hdue : Runs (Step.isDue step.guard scope w) checks true)
      (hbody : step.body = .action action) (hkind : action.kind = "choose" ∨ action.kind = "prompt")
      (h : recorded es =
        [.stepCompleted index none action.kind (some resolved) none milliseconds]) :
    StepBlock scope step index w (checks ++ es) false
  | unanswered {checks es action cause milliseconds}
      (hdue : Runs (Step.isDue step.guard scope w) checks true)
      (hbody : step.body = .action action) (hkind : action.kind = "choose" ∨ action.kind = "prompt")
      (h : recorded es = [.stepFailed index none action.kind none none cause milliseconds]) :
    StepBlock scope step index w (checks ++ es) true
  | fail {checks es message text} (hdue : Runs (Step.isDue step.guard scope w) checks true)
      (hbody : step.body = .action (.fail message))
      (h : recorded es = [.stepFailed index none "fail" none none text 0]) :
    StepBlock scope step index w (checks ++ es) true
  | parallel {checks opening woven closing branches parts success}
      (hdue : Runs (Step.isDue step.guard scope w) checks true)
      (hbody : step.body = .parallel branches)
      (hopening : recorded opening = [.parallelStarted index branches.length])
      (hparts : List.Forall₂ (fun (b : Branch × Nat) (part : RunTrace × Bool) =>
        BranchBlock scope index w b.1 b.2 part.1 part.2) branches.zipIdx parts)
      (hwoven : Woven (Pool.IsPick Task.pick) (parts.map Prod.fst) woven)
      (hblocks : Interleaved ((parts.map Prod.fst).map recorded) (recorded woven))
      (hsuccess : success = (parts.map Prod.snd).all id)
      (hclosing : recorded closing = [.parallelFinished index success]) :
    StepBlock scope step index w (checks ++ (opening ++ woven ++ closing)) (!success)

theorem Branch.Taken.branchBlock {b : Branch} {scope : RunScope} {label : StepLabel}
    {branch : Nat} {w : Workspace} {es : RunTrace} {e : Branch.End}
    (h : b.Taken scope label branch w es e) (hlabel : label.branch = some branch) :
    BranchBlock scope label.index w b branch es e.success := by
  cases h with
  | skipped hdue => exact .skipped hdue rfl
  | run hdue haction htake =>
    have hblock := RunStep.runBlock_of_runs_take htake
    rw [hlabel] at hblock
    exact .run hdue haction hblock
  | fail hdue haction hfail =>
    obtain ⟨stamp, rfl, rfl⟩ := Step.runs_fail hfail
    exact .fail hdue haction (by rw [hlabel]; rfl)

theorem recorded_of_runs_isDue {guard : Option Condition} {scope : RunScope} {w : Workspace}
    {checks : RunTrace} {due : Bool} (h : Runs (Step.isDue guard scope w) checks due) :
    recorded checks = [] :=
  List.filterMap_eq_nil_iff.mpr fun e he =>
    (Step.isCheck_of_runs_isDue h e he).occurrence?_eq_none

theorem branch?_of_mem_retries {scope : RunScope} {index : Nat} {branch : Option Nat}
    {made n : Nat} {o : Occurrence} (h : o ∈ retries scope index branch made n) :
    o.branch? = branch := by
  obtain ⟨i, _, rfl⟩ := List.mem_map.mp h
  rfl

theorem Levels.branch?_of_mem {scope : RunScope} {index : Nat} {branch : Option Nat} {level : Nat}
    {fallbacks : List Fallback} {os : List Occurrence}
    (h : Levels scope index branch level fallbacks os) : ∀ o ∈ os, o.branch? = branch := by
  induction h with
  | nil => simp
  | next _ ih =>
    intro o ho
    rcases List.mem_cons.mp ho with rfl | ho
    · rfl
    · exact (List.mem_append.mp ho).elim branch?_of_mem_retries (ih o)

theorem RunBlock.branch?_of_mem {scope : RunScope} {index : Nat} {branch : Option Nat}
    {step : RunStep} {os : List Occurrence} {success : Bool}
    (h : RunBlock scope index branch step os success) : ∀ o ∈ os, o.branch? = branch := by
  cases h with
  | completed hlevels | failed hlevels =>
    intro o ho
    rcases List.mem_append.mp ho with ho | ho
    · exact (List.mem_append.mp ho).elim branch?_of_mem_retries (hlevels.branch?_of_mem o)
    · obtain rfl := List.mem_singleton.mp ho
      rfl

theorem BranchBlock.branch?_of_mem {scope : RunScope} {index : Nat} {w : Workspace} {b : Branch}
    {branch : Nat} {es : RunTrace} {success : Bool}
    (h : BranchBlock scope index w b branch es success) :
    ∀ o ∈ recorded es, o.branch? = some branch := by
  cases h with
  | skipped hdue hes | fail hdue _ hes =>
    rw [recorded_append, recorded_of_runs_isDue hdue, hes]
    simp [Occurrence.branch?]
  | run hdue _ hblock =>
    rw [recorded_append, recorded_of_runs_isDue hdue]
    exact hblock.branch?_of_mem

theorem recorded_of_isPick {es : RunTrace} (h : Pool.IsPick Task.pick es) : recorded es = [] := by
  obtain ⟨places, place, hpick⟩ := h
  obtain rfl := Task.runs_pick hpick
  rfl

namespace Run

variable {bounds : RunBounds} {scope : RunScope} {step : Step} {index : Nat} {w : Workspace}
  {es : RunTrace} {e : StepEnd}

theorem ParallelTaken.stepBlock {checks : RunTrace} {branches : List Branch}
    (hdue : Runs (Step.isDue step.guard scope w) checks true)
    (hbody : step.body = .parallel branches)
    (h : ParallelTaken scope branches (stepLabel scope step index w) w es e) :
    StepBlock scope step index w (checks ++ es) e.failure.isSome := by
  cases h with
  | @joined parts woven success opened closed hparts hwoven hsuccess =>
    let blocks : List (RunTrace × Bool) := parts.map fun part => (part.1, part.2.success)
    have hblocks : List.Forall₂ (fun (b : Branch × Nat) (part : RunTrace × Bool) =>
        BranchBlock scope index w b.1 b.2 part.1 part.2) branches.zipIdx blocks := by
      refine List.forall₂_map_right_iff.mpr (List.Forall₂.imp (fun b part htaken => ?_) hparts)
      exact Branch.Taken.branchBlock htaken rfl
    have htraces : blocks.map Prod.fst = parts.map Prod.fst := by simp [blocks]
    have hall : success = (blocks.map Prod.snd).all id := by
      simp [blocks, hsuccess, Function.comp_def]
    have hinterleaved : Interleaved ((blocks.map Prod.fst).map recorded) (recorded woven) := by
      rw [htraces]
      exact hwoven.filterMap occurrence? fun _ => recorded_of_isPick
    have hhalts : (if success = true then none
        else some ((stepLabel scope step index w).name ++ " failed")).isSome = !success := by
      cases success <;> rfl
    have hopening : recorded [
        ⟨.display (.parallelStarted (stepLabel scope step index w) branches.length), ()⟩,
        ⟨.record (.parallelStarted index branches.length), opened⟩] =
        [.parallelStarted index branches.length] := rfl
    simp only [hhalts]
    exact .parallel hdue hbody hopening hblocks (htraces ▸ hwoven) hinterleaved hall rfl

theorem StepTaken.stepBlock (h : StepTaken scope step index w es e) :
    StepBlock scope step index w es e.failure.isSome := by
  cases h with
  | skipped hdue => exact .skipped hdue rfl
  | parallel hdue hbody htaken => exact htaken.stepBlock hdue hbody
  | @action checks action es e hdue hbody hact =>
    have hkind : (stepLabel scope step index w).kind = action.kind := by
      simp [stepLabel, hbody, StepBody.kind]
    cases action with
    | run run =>
      obtain ⟨taken, result, _, rfl, htaken, rfl, rfl⟩ := Program.runs_bind.mp hact
      have hblock := RunStep.runBlock_of_runs_take htaken
      have hhalts : (if (!result.outcome.success && !run.continueOnError) = true then
          some ((stepLabel scope step index w).name ++ " failed") else none).isSome =
          (!result.outcome.success && !run.continueOnError) := by
        cases (!result.outcome.success && !run.continueOnError) <;> rfl
      rw [List.append_nil]
      simp only [hhalts]
      exact .run hdue hbody hblock
    | choose choice =>
      rcases Step.recorded_of_runs_question .choice
          (fun id => (w.setChoice id id).setVariable choice.variableName id) hact with
        ⟨id, milliseconds, hes, rfl⟩ | ⟨cause, milliseconds, hes, rfl⟩
      · exact .answered hdue hbody (.inl rfl) (hkind ▸ hes)
      · exact .unanswered hdue hbody (.inl rfl) (hkind ▸ hes)
    | prompt entry =>
      rcases Step.recorded_of_runs_question .prompt
          (fun value => (w.setVariable entry.storeAs value).setFact entry.storeAs (.text value))
          hact with ⟨value, milliseconds, hes, rfl⟩ | ⟨cause, milliseconds, hes, rfl⟩
      · exact .answered hdue hbody (.inr rfl) (hkind ▸ hes)
      · exact .unanswered hdue hbody (.inr rfl) (hkind ▸ hes)
    | fail message =>
      obtain ⟨stamp, rfl, rfl⟩ := Step.runs_fail hact
      exact .fail hdue hbody rfl

/-! ### Runs -/

/-- The exchanges of steps in turn, step by step, and whether the last one that was reached halted
the run: every step starts in the workspace that the one before left. -/
inductive Blocks (bounds : RunBounds) (scope : RunScope) :
    Nat → Workspace → List Step → List RunTrace → Bool → Prop where
  | last {index : Nat} {w : Workspace} {step : Step} {es : RunTrace}
      (h : StepBlock scope step index w es false) :
    Blocks bounds scope index w [step] [es] false
  | halted {index : Nat} {w : Workspace} {step : Step} {rest : List Step} {es : RunTrace}
      (h : StepBlock scope step index w es true) :
    Blocks bounds scope index w (step :: rest) [es] true
  | next {index : Nat} {w : Workspace} {step : Step} {rest : List Step} {es : RunTrace}
      {e : StepEnd} {blocks : List RunTrace} {halts : Bool}
      (h : StepBlock scope step index w es false)
      (htake : Runs (takeStep bounds scope step index w) es e)
      (more : Blocks bounds scope (index + 1) e.workspace rest blocks halts) :
    Blocks bounds scope index w (step :: rest) (es :: blocks) halts

theorem Blocks.length_eq {steps : List Step} {blocks : List RunTrace}
    (h : Blocks bounds scope index w steps blocks false) : blocks.length = steps.length := by
  generalize hhalts : false = halts at h
  induction h with
  | last _ => rfl
  | halted _ => simp at hhalts
  | next _ _ _ ih => simp [ih hhalts]

theorem blocks_of_runs_takeSteps {steps : List Step} (hne : steps ≠ [])
    (hsteps : ∀ step ∈ steps, step.IsWellFormed)
    (h : Runs (takeSteps bounds scope index w steps) es e) :
    ∃ blocks, Blocks bounds scope index w steps blocks e.failure.isSome ∧ es = blocks.flatten := by
  induction steps generalizing index w es with
  | nil => exact absurd rfl hne
  | cons step rest ih =>
    obtain ⟨front, taken, back, rfl, hfront, hback⟩ := Program.runs_bind.mp h
    have hblock := (stepTaken_of_runs (hsteps step List.mem_cons_self) hfront).stepBlock
    cases hhalts : taken.failure.isSome with
    | true =>
      simp only [hhalts, if_true] at hback
      obtain ⟨rfl, rfl⟩ := hback
      rw [hhalts] at hblock ⊢
      exact ⟨[front], .halted hblock, by simp⟩
    | false =>
      simp only [hhalts, Bool.false_eq_true, if_false] at hback
      rw [hhalts] at hblock
      cases rest with
      | nil =>
        obtain ⟨rfl, rfl⟩ := hback
        exact ⟨[front], .last hblock, by simp⟩
      | cons following others =>
        obtain ⟨blocks, hblocks, rfl⟩ := ih (by simp)
          (fun s hs => hsteps s (List.mem_cons_of_mem _ hs)) hback
        exact ⟨front :: blocks, .next hblock hfront hblocks, rfl⟩

theorem occurrence_event? (runId : String) (es : RunTrace) :
    (es.filterMap (event? runId)).map (·.occurrence) = recorded es := by
  rw [List.map_filterMap]
  refine List.filterMap_congr fun e _ => ?_
  obtain ⟨effect, reply⟩ := e
  cases effect <;> rfl

end Run

namespace Workflow

def runScope (w : Workflow) (options : RunOptions) (current : FilePath) : RunScope :=
  ⟨w, options.given, w.workingDir? current, options.backoff, options.bounds.patience⟩

/-- A run: its beginning, its steps in turn, and its end. -/
theorem runs_task {w : Workflow} {options : RunOptions} {current : FilePath} {es : RunTrace}
    {r : Run} (h : Runs (w.task options current) es r) :
    ∃ taken e milliseconds, Runs (Run.takeSteps options.bounds (w.runScope options current) 0
        (Run.initialWorkspace options.given) w.steps) taken e ∧
      r.failure = e.failure ∧ r.workspace = e.workspace ∧
      r.history.events.map (·.occurrence) = .runStarted w.name w.steps.length ::
        (recorded taken ++ [Run.closing e.failure milliseconds]) := by
  obtain ⟨clock, start, tail, rfl, hclock, htail⟩ := Program.runs_bind.mp h
  obtain ⟨_, ⟨⟨e, stop⟩, exchanges⟩, last, rfl, htraced, hlast⟩ := Program.runs_bind.mp htail
  obtain ⟨_, stamp, _, rfl, _, rfl, rfl⟩ := Program.runs_bind.mp hlast
  obtain ⟨rfl, hsteps⟩ := Program.runs_traced.mp htraced
  obtain ⟨opening, _, rest, hopened, hopening, hrest⟩ := Program.runs_bind.mp hsteps
  obtain ⟨opened, rfl⟩ := Task.runs_record hopening
  obtain ⟨taken, e', back, rfl, htaken, hback⟩ := Program.runs_bind.mp hrest
  obtain ⟨clocked, stop', ending, rfl, hclocked, hending⟩ := Program.runs_bind.mp hback
  obtain rfl := Task.runs_clock hclocked
  obtain ⟨noted, _, _, rfl, hnoted, rfl, hresult⟩ := Program.runs_bind.mp hending
  obtain ⟨closed, rfl⟩ := Task.runs_record hnoted
  obtain ⟨rfl, rfl⟩ := Prod.mk.inj hresult
  refine ⟨taken, e, (start.time.durationUntil stop.time).milliseconds, htaken, rfl, rfl, ?_⟩
  have hexchanges : exchanges = ⟨.record (.runStarted w.name w.steps.length), opened⟩ ::
    (taken ++ [⟨.clock, stop⟩, ⟨.record (Run.closing e.failure
      (start.time.durationUntil stop.time).milliseconds), closed⟩]) := hopened
  change (exchanges.filterMap (Run.event? start.id)).map (·.occurrence) = _
  rw [Run.occurrence_event?, hexchanges, recorded_record, recorded_append,
    recorded_cons_of_none rfl, recorded_record, recorded_nil]

/-- The grammar of histories, whatever the host replies and whichever branches it picks. -/
theorem history_grammar {σ : Type} {host : RunHost σ} {s : σ} {w : Workflow} {options : RunOptions}
    {current : FilePath} {d : RunDriven σ Run} (haccepted : w.IsAccepted)
    (hd : w.run host options current s = some d) :
    ∃ blocks halts milliseconds,
      Run.Blocks options.bounds (w.runScope options current) 0
        (Run.initialWorkspace options.given) w.steps blocks halts ∧
      d.result.history.events.map (·.occurrence) = .runStarted w.name w.steps.length ::
        (blocks.flatMap recorded ++ [Run.closing d.result.failure milliseconds]) ∧
      (d.result.failure = none ↔ blocks.length = w.steps.length ∧ halts = false) := by
  obtain ⟨taken, e, milliseconds, htaken, hfailure, _, hevents⟩ :=
    runs_task (Program.runs_of_drive hd)
  obtain ⟨blocks, hblocks, rfl⟩ :=
    Run.blocks_of_runs_takeSteps haccepted.steps_ne_nil haccepted.isWellFormed htaken
  refine ⟨blocks, e.failure.isSome, milliseconds, hblocks, ?_, ?_⟩
  · rw [hevents, hfailure, recorded_flatten]
  · rw [hfailure]
    constructor
    · intro hnone
      rw [hnone] at hblocks ⊢
      exact ⟨hblocks.length_eq, rfl⟩
    · intro hlast
      exact Option.isSome_eq_false_iff.mp hlast.2 |> Option.isNone_iff_eq_none.mp

/-- A document with a step that runs a command and one that fails on purpose. -/
def haltingDocument : Document :=
  .object [("steps", .list [.object [("run", .text "first")], .object [("fail", .text "stop")]])]

def halting : Workflow :=
  ⟨none, none, none, [], [⟨none, .action (.run ⟨"first", none, .never, none, false, [], []⟩)⟩,
    ⟨none, .action (.fail "stop")⟩], ⟨none, none, []⟩⟩

def quiet : Rehearsal := ⟨[], ⟨true, some 0, [], [], false, .zero⟩, [], [], .zero, []⟩

theorem history_grammar_halting : ∃ d : RunDriven Rehearsal Run,
    halting.run Rehearsal.host ⟨[], .standard, ⟨1, 1⟩⟩ "/" quiet = some d ∧
    ∃ blocks halts milliseconds,
      Run.Blocks ⟨1, 1⟩ (halting.runScope ⟨[], .standard, ⟨1, 1⟩⟩ "/") 0 .empty
        halting.steps blocks halts ∧
      d.result.history.events.map (·.occurrence) = .runStarted none 2 ::
        (blocks.flatMap recorded ++ [Run.closing d.result.failure milliseconds]) ∧
      (d.result.failure = none ↔ blocks.length = 2 ∧ halts = false) := by
  have haccepted : halting.IsAccepted := ⟨haltingDocument, _, rfl, rfl⟩
  have hd : halting.run Rehearsal.host ⟨[], .standard, ⟨1, 1⟩⟩ "/" quiet = some _ := rfl
  exact ⟨_, hd, history_grammar haccepted hd⟩

end Workflow

end Runbook
