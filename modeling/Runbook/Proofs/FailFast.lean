import Runbook.Proofs.Contract
import Runbook.Proofs.RunCourse

/-!
Workflows that are continued by further steps. Main statement: if a run fails, so does the run of the
continued workflow, in the same way and after the same; if it succeeds, the run of the continued
workflow does all of it first, and then takes the further steps from where it left the workspace.
-/

namespace Runbook

open Program (Runs)

/-! ### What the steps of a run look at -/

/-- Scopes that differ in nothing but what the workflow says of names and of the lines of steps. -/
structure RunScope.SharesSettings (scope scope' : RunScope) : Prop where
  shell : scope'.workflow.shell = scope.workflow.shell
  given : scope'.given = scope.given
  directory : scope'.directory = scope.directory
  backoff : scope'.backoff = scope.backoff
  patience : scope'.patience = scope.patience

namespace RunStep

variable {scope scope' : RunScope}

theorem attempt_congr (h : scope'.backoff = scope.backoff) (request : CommandRequest)
    (retry : Retry) (made : UInt32) (bound : Nat) :
    attempt scope' request retry made bound = attempt scope request retry made bound := by
  induction bound generalizing made with
  | zero => rfl
  | succ bound ih => simp only [attempt, h, ih]

variable (h : scope.SharesSettings scope')

include h

theorem attempts_congr (request : CommandRequest) (retry : Retry) :
    attempts scope' request retry = attempts scope request retry := by
  rw [attempts, attempts, h.patience, attempt_congr h.backoff]

theorem fallBack_congr (w : Workspace) (request : CommandRequest) (fallbacks : List Fallback)
    (last : CommandOutcome) (level : Nat) :
    fallBack scope' w request last level fallbacks = fallBack scope w request last level fallbacks := by
  induction fallbacks generalizing last level with
  | nil => rfl
  | cons f rest ih => simp only [fallBack, attempts_congr h, ih]

theorem request_congr (step : RunStep) (label : StepLabel) (w : Workspace) :
    step.request scope' label w = step.request scope label w := by
  simp only [request, h.shell, h.directory]

theorem execute_congr (step : RunStep) (label : StepLabel) (w : Workspace) :
    step.execute scope' label w = step.execute scope label w := by
  simp only [execute, request_congr h, attempts_congr h, fallBack_congr h]

theorem take_congr (step : RunStep) (label : StepLabel) (slot : Nat) (w : Workspace) :
    step.take scope' label slot w = step.take scope label slot w := by
  simp only [take, request_congr h, execute_congr h]

end RunStep

section Scopes

variable {scope scope' : RunScope} (h : scope.SharesSettings scope')

include h

theorem Step.isDue_congr (guard : Option Condition) (w : Workspace) :
    isDue guard scope' w = isDue guard scope w := by
  simp only [isDue, h.directory]

theorem Step.act_congr (action : Action) (label : StepLabel) (w : Workspace) :
    act action scope' label w = act action scope label w := by
  cases action with
  | run step => simp only [act, RunStep.take_congr h]
  | choose step => simp only [act, choose, valueOrAnswer, h.given]
  | prompt step => simp only [act, prompt, valueOrAnswer, h.given]
  | fail message => rfl

theorem Branch.take_congr (b : Branch) (label : StepLabel) (branch : Nat) (w : Workspace) :
    b.take scope' label branch w = b.take scope label branch w := by
  simp only [take, Step.isDue_congr h, RunStep.take_congr h]

theorem Run.takeStep_congr (bounds : RunBounds) (step : Step) {index : Nat} (w : Workspace)
    (hline : scope'.workflow.stepLine? index = scope.workflow.stepLine? index) :
    takeStep bounds scope' step index w = takeStep bounds scope step index w := by
  have hlabel : stepLabel scope' step index w = stepLabel scope step index w := by
    simp only [stepLabel, hline]
  have hbranches : ∀ branches, branchTasks scope' branches index w =
      branchTasks scope branches index w := by
    intro branches
    simp only [branchTasks, branchLabel, hline, Branch.take_congr h]
  have hparallel : ∀ branches label, label.index = index →
      takeParallel bounds scope' branches label w = takeParallel bounds scope branches label w := by
    rintro branches label rfl
    simp only [takeParallel, hbranches]
  simp only [takeStep, hlabel, Step.isDue_congr h, Step.act_congr h,
    hparallel _ (stepLabel scope step index w) rfl]

theorem Run.takeSteps_congr (bounds : RunBounds) (steps : List Step) {index : Nat} (w : Workspace)
    (hlines : ∀ i, index ≤ i → i < index + steps.length →
      scope'.workflow.stepLine? i = scope.workflow.stepLine? i) :
    takeSteps bounds scope' index w steps = takeSteps bounds scope index w steps := by
  induction steps generalizing index w with
  | nil => rfl
  | cons step rest ih =>
    have hstep := takeStep_congr h bounds step w (hlines index (Nat.le_refl _) (by simp))
    have hrest : ∀ w', takeSteps bounds scope' (index + 1) w' rest =
        takeSteps bounds scope (index + 1) w' rest := fun w' =>
      ih w' fun i hi hi' => hlines i (by omega) (by rw [List.length_cons]; omega)
    simp only [takeSteps, hstep, hrest]

end Scopes

/-- Steps before others are taken to their end, and if none of them fails the others go on. -/
theorem Run.takeSteps_append (bounds : RunBounds) (scope : RunScope) (xs ys : List Step)
    (index : Nat) (w : Workspace) : takeSteps bounds scope index w (xs ++ ys) =
      takeSteps bounds scope index w xs >>= fun taken =>
        if taken.failure.isSome then pure taken
        else takeSteps bounds scope (index + xs.length) taken.workspace ys := by
  induction xs generalizing index w with
  | nil => rfl
  | cons step rest ih =>
    refine Eq.trans ?_ (Program.andThen_assoc (takeStep bounds scope step index w) _ _).symm
    change Program.andThen _ _ = Program.andThen _ _
    congr 1
    funext taken
    cases hfailure : taken.failure.isSome with
    | true =>
      rw [if_pos rfl]
      exact (if_pos hfailure).symm
    | false =>
      rw [if_neg (by simp), if_neg (by simp), List.append_eq, ih, List.length_cons,
        Nat.add_right_comm index 1, Nat.add_assoc]
      rfl

/-! ### Workflows that share their settings -/

namespace Workflow

variable {σ : Type} {w w' : Workflow}

/-- Workflows whose commands run in the same shell and the same directory. -/
structure SharesSettings (w w' : Workflow) : Prop where
  shell : w'.shell = w.shell
  baseDir : w'.baseDir = w.baseDir
  filePath : w'.source.filePath = w.source.filePath

theorem SharesSettings.runScope (h : w.SharesSettings w') (options : RunOptions)
    (current : FilePath) :
    (w.runScope options current).SharesSettings (w'.runScope options current) where
  shell := h.shell
  given := rfl
  directory := by
    change w'.workingDir? current = w.workingDir? current
    rw [workingDir?, workingDir?, h.baseDir, h.filePath]
  backoff := rfl
  patience := rfl

/-- A workflow that goes on with further steps where another one ends; the steps of the other one
stand on their lines. -/
structure Extends (w : Workflow) (more : List Step) (w' : Workflow) : Prop
    extends w.SharesSettings w' where
  name : w'.name = w.name
  steps : w'.steps = w.steps ++ more
  lines : ∀ i < w.steps.length, w'.stepLine? i = w.stepLine? i

end Workflow

/-! ### Runs -/

/-- How many steps a workflow has is recorded, but makes no difference to what the host replies. -/
def RunHost.OverlooksStepCount {σ : Type} (host : RunHost σ) : Prop :=
  ∀ s name n m, host s (.record (.runStarted name n)) = host s (.record (.runStarted name m))

/-- The commands that are run, the questions asked and the files looked up, in their order. -/
def portCalls (es : RunTrace) : List Effect :=
  (es.map (·.call)).filter fun
    | .start _ | .ask _ | .check _ => true
    | _ => false

theorem portCalls_append (es fs : RunTrace) :
    portCalls (es ++ fs) = portCalls es ++ portCalls fs := by
  simp [portCalls]

namespace Workflow

variable {σ : Type} {w w' : Workflow} {more : List Step} {host : RunHost σ} {options : RunOptions}
  {current : FilePath} {s : σ} {steps : RunDriven σ StepEnd} {d : RunDriven σ Run}

theorem Concludes.portCalls_eq (h : w.Concludes host s steps d) :
    portCalls d.exchanges = portCalls steps.exchanges := by
  obtain ⟨front, back, hexchanges, hframe, _, _⟩ := h.exchanges
  have hnone : ∀ es : RunTrace, (∀ e ∈ es, e.call.IsFrame) → portCalls es = [] := by
    intro es hes
    refine List.filter_eq_nil_iff.mpr fun c hc => ?_
    obtain ⟨e, he, rfl⟩ := List.mem_map.mp hc
    have he := hes e he
    cases hcall : e.call <;> simp_all [Effect.IsFrame]
  rw [hexchanges, portCalls_append, portCalls_append,
    hnone front fun e he => hframe e (List.mem_append_left _ he),
    hnone back fun e he => hframe e (List.mem_append_right _ he), List.nil_append, List.append_nil]

def continued (w w' : Workflow) (more : List Step) (options : RunOptions) (current : FilePath)
    (workspace : Workspace) : Task StepEnd :=
  Run.takeSteps options.bounds (w'.runScope options current) w.steps.length workspace more

theorem Extends.course_eq (h : w.Extends more w') (hhost : host.OverlooksStepCount) (s : σ) :
    w'.course host options current s = (w.course host options current s).bind fun first =>
      if first.result.failure.isSome then some first
      else ((w.continued w' more options current first.result.workspace).drive host
        first.state).map (·.after first.exchanges) := by
  have hbeginning : w'.beginning host s = w.beginning host s := by
    rw [beginning, beginning, h.name, hhost _ _ w'.steps.length w.steps.length]
  have hown : Run.takeSteps options.bounds (w'.runScope options current) 0
      (Run.initialWorkspace options.given) w.steps = Run.takeSteps options.bounds
        (w.runScope options current) 0 (Run.initialWorkspace options.given) w.steps :=
    Run.takeSteps_congr (h.toSharesSettings.runScope options current) options.bounds w.steps _
      fun i _ hi => h.lines i (by omega)
  rw [course, course, hbeginning, h.steps, Run.takeSteps_append, hown, Program.drive_bind]
  congr 1
  funext first
  cases hfailure : first.result.failure.isSome with
  | true =>
    rw [if_pos rfl, if_pos rfl]
    change some (Driven.after ⟨first.result, first.state, []⟩ first.exchanges) = some first
    simp [Driven.after]
  | false =>
    rw [if_neg (by simp), if_neg (by simp), Nat.zero_add]
    rfl

theorem Extends.firstEvent_eq (h : w.Extends more w') (hhost : host.OverlooksStepCount) (s : σ) :
    w'.firstEvent host s =
      { w.firstEvent host s with occurrence := .runStarted w.name w'.steps.length } := by
  rw [firstEvent, firstEvent, h.name, hhost _ _ w'.steps.length w.steps.length]

/-- A run that fails is not changed by further steps. A run that succeeds is the beginning of the
run with further steps, which are taken from the workspace that it ended with, in the state that its
own steps left the host in. -/
theorem extended_run (h : w.Extends more w') (hhost : host.OverlooksStepCount)
    (hd : w.run host options current s = some d) :
    (d.result.failure.isSome → ∃ d', w'.run host options current s = some d' ∧
      d'.result.failure = d.result.failure ∧ d'.result.workspace = d.result.workspace ∧
      portCalls d'.exchanges = portCalls d.exchanges ∧
      ∃ first rest, d.result.history.events = first :: rest ∧
        d'.result.history.events =
          { first with occurrence := .runStarted w.name w'.steps.length } :: rest) ∧
    (d.result.failure = none → ∃ steps, w.course host options current s = some steps ∧
      ((w'.run host options current s).isSome ↔
        ((w.continued w' more options current d.result.workspace).drive host
          steps.state).isSome) ∧
      ∀ d', w'.run host options current s = some d' → ∃ rest,
        (w.continued w' more options current d.result.workspace).drive host steps.state =
          some rest ∧
        d'.result.failure = rest.result.failure ∧ d'.result.workspace = rest.result.workspace ∧
        portCalls d'.exchanges = portCalls d.exchanges ++ portCalls rest.exchanges ∧
        ∃ first own last, d.result.history.events = first :: (own ++ [last]) ∧
          d'.result.history.events =
            { first with occurrence := .runStarted w.name w'.steps.length } ::
              (own ++ stepEvents host s rest ++ [lastEvent host s rest])) := by
  obtain ⟨conclude, hrun, hconclude⟩ := w.run_eq host options current s
  obtain ⟨conclude', hrun', hconclude'⟩ := w'.run_eq host options current s
  obtain ⟨steps, hcourse, rfl⟩ := Option.map_eq_some_iff.mp (hrun.symm.trans hd)
  have hsteps := hconclude steps
  have hcourse' : w'.course host options current s = _ := h.course_eq hhost s
  rw [hcourse, Option.bind_some] at hcourse'
  constructor
  · intro hfailure
    rw [if_pos (hsteps.failure ▸ hfailure)] at hcourse'
    have hsteps' := hconclude' steps
    refine ⟨conclude' steps, by rw [hrun', hcourse']; rfl, ?_, ?_, ?_, _, _, hsteps.events, ?_⟩
    · rw [hsteps'.failure, hsteps.failure]
    · rw [hsteps'.workspace, hsteps.workspace]
    · rw [hsteps'.portCalls_eq, hsteps.portCalls_eq]
    · rw [hsteps'.events, h.firstEvent_eq hhost]
  · intro hfailure
    have hgo : ¬ steps.result.failure.isSome := by simp [← hsteps.failure, hfailure]
    rw [if_neg hgo, ← hsteps.workspace] at hcourse'
    refine ⟨steps, hcourse, by rw [hrun', hcourse']; simp, fun d' hd' => ?_⟩
    obtain ⟨steps', hmore, rfl⟩ := Option.map_eq_some_iff.mp (hrun'.symm.trans hd')
    obtain ⟨rest, hrest, rfl⟩ := Option.map_eq_some_iff.mp (hcourse'.symm.trans hmore)
    have hsteps' := hconclude' (rest.after steps.exchanges)
    refine ⟨rest, hrest, hsteps'.failure, hsteps'.workspace, ?_, _, _, _, hsteps.events, ?_⟩
    · rw [hsteps'.portCalls_eq, hsteps.portCalls_eq, ← portCalls_append]
      rfl
    · rw [hsteps'.events, h.firstEvent_eq hhost]
      have hevents : stepEvents host s (rest.after steps.exchanges) =
          stepEvents host s steps ++ stepEvents host s rest := List.filterMap_append
      rw [hevents]
      rfl

def starting : Workflow := { halting with steps := halting.steps.take 1 }

/-- The workflow that halts, with a step that it never comes to. -/
def overlong : Workflow :=
  { halting with steps := halting.steps ++
    [⟨none, .action (.run ⟨"late", none, .never, none, false, [], []⟩)⟩] }

theorem extends_starting : starting.Extends [⟨none, .action (.fail "stop")⟩] halting :=
  ⟨⟨rfl, rfl, rfl⟩, rfl, rfl, fun _ _ => rfl⟩

theorem extends_overlong :
    halting.Extends [⟨none, .action (.run ⟨"late", none, .never, none, false, [], []⟩)⟩] overlong :=
  ⟨⟨rfl, rfl, rfl⟩, rfl, rfl, fun _ _ => rfl⟩

theorem extended_run_halting :
    (∃ d d', halting.run Rehearsal.host ⟨[], .standard, ⟨1, 1⟩⟩ "/" quiet = some d ∧
      overlong.run Rehearsal.host ⟨[], .standard, ⟨1, 1⟩⟩ "/" quiet = some d' ∧
      d.result.failure.isSome ∧ d'.result.failure = d.result.failure ∧
      d'.result.workspace = d.result.workspace ∧
      portCalls d'.exchanges = portCalls d.exchanges) ∧
    ∃ d d' steps rest, starting.run Rehearsal.host ⟨[], .standard, ⟨1, 1⟩⟩ "/" quiet = some d ∧
      halting.run Rehearsal.host ⟨[], .standard, ⟨1, 1⟩⟩ "/" quiet = some d' ∧
      starting.course Rehearsal.host ⟨[], .standard, ⟨1, 1⟩⟩ "/" quiet = some steps ∧
      (starting.continued halting [⟨none, .action (.fail "stop")⟩] ⟨[], .standard, ⟨1, 1⟩⟩ "/"
        d.result.workspace).drive Rehearsal.host steps.state = some rest ∧
      d'.result.failure = rest.result.failure ∧
      portCalls d'.exchanges = portCalls d.exchanges ++ portCalls rest.exchanges := by
  have hhost : Rehearsal.host.OverlooksStepCount := fun _ _ _ _ => rfl
  constructor
  · have hd : halting.run Rehearsal.host ⟨[], .standard, ⟨1, 1⟩⟩ "/" quiet = some _ := rfl
    obtain ⟨d', hd', hfailure, hworkspace, hcalls, _⟩ :=
      (extended_run extends_overlong hhost hd).1 rfl
    exact ⟨_, d', hd, hd', rfl, hfailure, hworkspace, hcalls⟩
  · have hd : starting.run Rehearsal.host ⟨[], .standard, ⟨1, 1⟩⟩ "/" quiet = some _ := rfl
    have hd' : halting.run Rehearsal.host ⟨[], .standard, ⟨1, 1⟩⟩ "/" quiet = some _ := rfl
    obtain ⟨steps, hcourse, _, hgoes⟩ := (extended_run extends_starting hhost hd).2 rfl
    obtain ⟨rest, hrest, hfailure, _, hcalls, _⟩ := hgoes _ hd'
    exact ⟨_, _, steps, rest, hd, hd', hcourse, hrest, hfailure, hcalls⟩

end Workflow

end Runbook
