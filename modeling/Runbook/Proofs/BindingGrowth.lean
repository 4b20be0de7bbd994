import Runbook.Proofs.RunCourse

/-!
Bindings over a run. A step overlays the variables, facts and choices of the workspace and takes
none of them away, however it ends. Main statement: what is bound before some step is bound before
every later one and at the end, so that a condition on what is bound and chosen, built without a
negation, goes on to hold once it does.
-/

namespace Runbook

open Program (Runs)

namespace Bindings

variable {α κ : Type} [DecidableEq κ] [LT κ] [DecidableLT κ]

theorem isBound_bind_of_isBound {m : Bindings α κ} {name : κ} (h : m.isBound name = true)
    (other : κ) (value : α) : (m.bind other value).isBound name = true := by
  rw [isBound_bind, h, Bool.or_true]

theorem isBound_union_of_isBound {m : Bindings α κ} {name : κ} (h : m.isBound name = true)
    (n : Bindings α κ) : (m.union n).isBound name = true := isBound_bindAll.mpr (.inl h)

end Bindings

namespace Workspace

/-- Every name that is bound in the first workspace is bound in the second one, to the same value or
to another. -/
structure GrowsTo (w v : Workspace) : Prop where
  vars : ∀ name, w.vars.isBound name = true → v.vars.isBound name = true
  facts : ∀ name, w.facts.isBound name = true → v.facts.isBound name = true
  choices : ∀ name, w.choices.isBound name = true → v.choices.isBound name = true

namespace GrowsTo

variable {u v w : Workspace}

theorem refl (w : Workspace) : w.GrowsTo w := ⟨fun _ => id, fun _ => id, fun _ => id⟩

theorem trans (h : u.GrowsTo v) (h' : v.GrowsTo w) : u.GrowsTo w where
  vars name hname := h'.vars name (h.vars name hname)
  facts name hname := h'.facts name (h.facts name hname)
  choices name hname := h'.choices name (h.choices name hname)

theorem setVariable (h : w.GrowsTo v) (name value : String) :
    w.GrowsTo (v.setVariable name value) :=
  { h with vars := fun _ hbound => Bindings.isBound_bind_of_isBound (h.vars _ hbound) name value }

theorem setFact (h : w.GrowsTo v) (name : String) (value : Fact) :
    w.GrowsTo (v.setFact name value) :=
  { h with facts := fun _ hbound => Bindings.isBound_bind_of_isBound (h.facts _ hbound) name value }

theorem setChoice (h : w.GrowsTo v) (name value : String) : w.GrowsTo (v.setChoice name value) :=
  { h with
    choices := fun _ hbound => Bindings.isBound_bind_of_isBound (h.choices _ hbound) name value }

theorem setOutcome (h : w.GrowsTo v) (index : Nat) (outcome : StepOutcome) :
    w.GrowsTo (v.setOutcome index outcome) := ⟨h.vars, h.facts, h.choices⟩

/-- A branch adds what it has; nothing is replaced by what it lacks. -/
theorem merge (h : w.GrowsTo v) (branch : Workspace) : w.GrowsTo (v.merge branch) where
  vars _ hbound := Bindings.isBound_union_of_isBound (h.vars _ hbound) branch.vars
  facts _ hbound := Bindings.isBound_union_of_isBound (h.facts _ hbound) branch.facts
  choices := h.choices

theorem applyCaptures {captured : Workspace} {rules : List CaptureRule} {lines : List String}
    (h : w.GrowsTo v) (hcaptured : RunStep.applyCaptures rules lines v = .ok captured) :
    w.GrowsTo captured :=
  RunStep.applyCaptures_induction h (fun _ name value hv => hv.setVariable name value) hcaptured

theorem mergeBranches (h : w.GrowsTo v) (success : Bool)
    (ends : List (Except String Branch.End)) :
    w.GrowsTo (Run.mergeBranches success v ends).2 := by
  induction ends generalizing success v with
  | nil => exact h
  | cons e rest ih =>
    cases e with
    | error cause => exact h
    | ok e => exact ih (h.merge e.workspace) (success && e.success)

end GrowsTo

end Workspace

/-! ### Steps -/

section Steps

variable {scope : RunScope} {bounds : RunBounds} {label : StepLabel} {w : Workspace} {es : RunTrace}
  {e : StepEnd}

theorem RunStep.Executed.growsTo {step : RunStep} {result : RunStepResult}
    (h : step.Executed scope label w es result) : w.GrowsTo result.workspace := by
  cases h with
  | captured _ _ hcaptured => exact (Workspace.GrowsTo.refl w).applyCaptures hcaptured
  | fellBack _ _ _ => exact .refl w

theorem RunStep.growsTo_of_runs_take {step : RunStep} {slot : Nat} {result : RunStepResult}
    (h : Runs (step.take scope label slot w) es result) : w.GrowsTo result.workspace := by
  obtain ⟨_, _, _, _, _, _, rfl, hexecuted, rfl⟩ := RunStep.executed_of_runs_take h
  exact hexecuted.growsTo.setOutcome slot _

/-- A question that is answered binds the answer; one that is not leaves the workspace alone. -/
theorem Step.growsTo_of_runs_question {name : String} {question : Question}
    (make : String → ResolvedValue) {bound : String → Workspace}
    (hbound : ∀ value, w.GrowsTo (bound value)) (h : Runs (do
      let start ← Task.clock
      match ← valueOrAnswer scope name question with
      | .ok value => complete label (make value) start.time (bound value)
      | .error cause => unanswered label cause start.time w) es e) : w.GrowsTo e.workspace := by
  obtain ⟨_, _, answer, _, _, _, _, _, hend⟩ := exchanges_of_runs_question make bound h
  cases answer with
  | ok value =>
    obtain ⟨-, rfl⟩ := hend
    exact (hbound value).setOutcome label.index _
  | error cause =>
    obtain ⟨-, rfl⟩ := hend
    exact .refl w

theorem Step.growsTo_of_runs_act {action : Action} (h : Runs (act action scope label w) es e) :
    w.GrowsTo e.workspace := by
  have hself := Workspace.GrowsTo.refl w
  cases action with
  | run step =>
    obtain ⟨_, _, _, rfl, htaken, rfl, rfl⟩ := Program.runs_bind.mp h
    exact RunStep.growsTo_of_runs_take htaken
  | choose step =>
    exact growsTo_of_runs_question .choice
      (fun id => (hself.setChoice id id).setVariable step.variableName id) h
  | prompt step =>
    exact growsTo_of_runs_question .prompt
      (fun value => (hself.setVariable step.storeAs value).setFact step.storeAs (.text value)) h
  | fail message =>
    obtain ⟨_, rfl, rfl⟩ := Step.runs_fail h
    exact hself.setOutcome label.index _

namespace Run

theorem growsTo_of_runs_takeParallel {branches : List Branch}
    (h : Runs (takeParallel bounds scope branches label w) es e) : w.GrowsTo e.workspace := by
  obtain ⟨_, runs, _, _, _, _, _, hend⟩ := woven_of_runs_takeParallel h
  have hmerged := (Workspace.GrowsTo.refl w).mergeBranches true (runs.map Prod.snd)
  rcases hmerge : mergeBranches true w (runs.map Prod.snd) with ⟨cause | success, v⟩
  · rw [hmerge] at hend hmerged
    obtain ⟨-, rfl⟩ := hend
    exact hmerged
  · rw [hmerge] at hend hmerged
    obtain ⟨-, rfl⟩ := hend
    exact hmerged.setOutcome label.index _

/-- No step takes a binding away, whatever the host replies and however the step ends. -/
theorem growsTo_of_runs_takeStep {step : Step} {index : Nat}
    (h : Runs (takeStep bounds scope step index w) es e) : w.GrowsTo e.workspace := by
  obtain ⟨_, due, _, rfl, _, htail⟩ := Program.runs_bind.mp h
  cases due with
  | false =>
    obtain ⟨_, _, rfl⟩ := Task.runs_noting htail
    exact .refl w
  | true =>
    cases hbody : step.body with
    | action action =>
      simp only [hbody, if_true] at htail
      exact Step.growsTo_of_runs_act htail
    | parallel branches =>
      simp only [hbody, if_true] at htail
      exact growsTo_of_runs_takeParallel htail

end Run

end Steps

/-! ### Conditions -/

namespace Condition

/-- Built from nothing but the presence of variables and facts and the choices made, with `all` and
`any`. -/
inductive IsPositive : Condition → Prop
  | varExists (name : String) : IsPositive (.varExists name)
  | hasVar (name : String) : IsPositive (.hasVar name)
  | choiceMade (option : String) : IsPositive (.choiceMade option)
  | all {conditions : List Condition} (h : ∀ c ∈ conditions, IsPositive c) :
    IsPositive (.all conditions)
  | any {conditions : List Condition} (h : ∀ c ∈ conditions, IsPositive c) :
    IsPositive (.any conditions)

/-- Where the condition holds in the first workspace it holds in the second one, whatever files
there are and whatever was looked up before. -/
def PassesOn (w v : Workspace) (c : Condition) : Prop :=
  ∀ isFile isFile' paths paths', (c.evaluate w (lookUp isFile) paths).1 = true →
    (c.evaluate v (lookUp isFile') paths').1 = true

variable {w v : Workspace}

theorem evaluateAll_cons (w : Workspace) (isFile : FilePath → Bool) (c : Condition)
    (rest : List Condition) (paths : List FilePath) :
    (evaluateAll w (lookUp isFile) (c :: rest) paths).1 =
      ((evaluate w (lookUp isFile) c paths).1 &&
        (evaluateAll w (lookUp isFile) rest (evaluate w (lookUp isFile) c paths).2).1) := by
  rcases hc : evaluate w (lookUp isFile) c paths with ⟨_ | _, more⟩ <;>
    simp only [evaluateAll, bind, StateT.bind, hc] <;> rfl

theorem evaluateAny_cons (w : Workspace) (isFile : FilePath → Bool) (c : Condition)
    (rest : List Condition) (paths : List FilePath) :
    (evaluateAny w (lookUp isFile) (c :: rest) paths).1 =
      ((evaluate w (lookUp isFile) c paths).1 ||
        (evaluateAny w (lookUp isFile) rest (evaluate w (lookUp isFile) c paths).2).1) := by
  rcases hc : evaluate w (lookUp isFile) c paths with ⟨_ | _, more⟩ <;>
    simp only [evaluateAny, bind, StateT.bind, hc] <;> rfl

theorem evaluateAll_of_passesOn {conditions : List Condition}
    (h : ∀ c ∈ conditions, PassesOn w v c) {isFile isFile' : FilePath → Bool}
    {paths paths' : List FilePath} (hall : (evaluateAll w (lookUp isFile) conditions paths).1 = true) :
    (evaluateAll v (lookUp isFile') conditions paths').1 = true := by
  induction conditions generalizing paths paths' with
  | nil => rfl
  | cons c rest ih =>
    rw [evaluateAll_cons, Bool.and_eq_true] at hall ⊢
    exact ⟨h c List.mem_cons_self _ _ _ _ hall.1,
      ih (fun d hd => h d (List.mem_cons_of_mem c hd)) hall.2⟩

theorem evaluateAny_of_passesOn {conditions : List Condition}
    (h : ∀ c ∈ conditions, PassesOn w v c) {isFile isFile' : FilePath → Bool}
    {paths paths' : List FilePath} (hany : (evaluateAny w (lookUp isFile) conditions paths).1 = true) :
    (evaluateAny v (lookUp isFile') conditions paths').1 = true := by
  induction conditions generalizing paths paths' with
  | nil => exact hany
  | cons c rest ih =>
    rw [evaluateAny_cons, Bool.or_eq_true] at hany ⊢
    rcases hany with hfirst | hrest
    · exact .inl (h c List.mem_cons_self _ _ _ _ hfirst)
    · exact .inr (ih (fun d hd => h d (List.mem_cons_of_mem c hd)) hrest)

/-- A positive condition that holds goes on to hold when bindings are added. -/
theorem IsPositive.passesOn {c : Condition} (hc : c.IsPositive) (h : w.GrowsTo v) :
    PassesOn w v c := by
  induction hc with
  | varExists name =>
    intro _ _ _ _ hholds
    have hbound : w.isBound name = true := hholds
    change v.isBound name = true
    rw [Workspace.isBound, Bool.or_eq_true] at hbound ⊢
    exact hbound.imp (h.vars name) (h.facts name)
  | hasVar name =>
    intro _ _ _ _ hholds
    have hbound : w.isBound name = true := hholds
    change v.isBound name = true
    rw [Workspace.isBound, Bool.or_eq_true] at hbound ⊢
    exact hbound.imp (h.vars name) (h.facts name)
  | choiceMade option => exact fun _ _ _ _ hholds => h.choices option hholds
  | all _ ih => exact fun _ _ _ _ hholds => evaluateAll_of_passesOn ih hholds
  | any _ ih => exact fun _ _ _ _ hholds => evaluateAny_of_passesOn ih hholds

end Condition

/-! ### Runs -/

namespace Run

variable {σ : Type}

/-- The workspaces of steps that a host takes: the one before each step that it comes to, and the
one that the last step leaves, if that step comes to an end. -/
def moments (host : RunHost σ) (bounds : RunBounds) (scope : RunScope) :
    Nat → Workspace → List Step → σ → List Workspace
  | _, w, [], _ => [w]
  | index, w, step :: rest, s =>
    w :: match (takeStep bounds scope step index w).drive host s with
      | none => []
      | some d =>
        if d.result.failure.isSome then [d.result.workspace]
        else moments host bounds scope (index + 1) d.result.workspace rest d.state

variable (host : RunHost σ) (bounds : RunBounds) (scope : RunScope)

theorem growsTo_of_mem_moments (steps : List Step) (index : Nat) (w : Workspace) (s : σ)
    {v : Workspace} (hv : v ∈ moments host bounds scope index w steps s) : w.GrowsTo v := by
  induction steps generalizing index w s with
  | nil =>
    rw [List.mem_singleton.mp hv]
    exact .refl w
  | cons step rest ih =>
    rcases List.mem_cons.mp hv with rfl | hv
    · exact .refl v
    · cases hstep : (takeStep bounds scope step index w).drive host s with
      | none => simp [hstep] at hv
      | some d =>
        have hgrows := growsTo_of_runs_takeStep (Program.runs_of_drive hstep)
        simp only [hstep] at hv
        split at hv
        · rw [List.mem_singleton.mp hv]
          exact hgrows
        · exact hgrows.trans (ih _ _ _ hv)

theorem pairwise_moments (steps : List Step) (index : Nat) (w : Workspace) (s : σ) :
    (moments host bounds scope index w steps s).Pairwise Workspace.GrowsTo := by
  induction steps generalizing index w s with
  | nil => exact List.pairwise_singleton _ _
  | cons step rest ih =>
    refine List.pairwise_cons.mpr ⟨fun v hv => ?_, ?_⟩
    · exact growsTo_of_mem_moments host bounds scope (step :: rest) index w s
        (List.mem_cons_of_mem w hv)
    · cases (takeStep bounds scope step index w).drive host s with
      | none => exact .nil
      | some d =>
        dsimp only
        split
        · exact List.pairwise_singleton _ _
        · exact ih (index + 1) d.result.workspace d.state

variable {host bounds scope}

/-- If the steps come to an end, their passages begin and end at the moments. -/
theorem exists_passes_of_drive {steps : List Step} {index : Nat} {w : Workspace} {s : σ}
    {d : RunDriven σ StepEnd}
    (hd : (takeSteps bounds scope index w steps).drive host s = some d) :
    ∃ passages, Passes bounds scope index w steps passages d.result ∧
      moments host bounds scope index w steps s =
        passages.map (·.before) ++ [d.result.workspace] := by
  induction steps generalizing index w s d with
  | nil =>
    cases hd
    exact ⟨[], .finished, rfl⟩
  | cons step rest ih =>
    rw [takeSteps, Program.drive_bind] at hd
    obtain ⟨taken, htaken, hrest⟩ := Option.bind_eq_some_iff.mp hd
    have hruns := Program.runs_of_drive htaken
    simp only [moments, htaken]
    cases hfailure : taken.result.failure with
    | some message =>
      simp only [hfailure, Option.isSome_some, if_true] at hrest ⊢
      cases hrest
      have hhalts : taken.result.failure.isSome = true := by simp [hfailure]
      exact ⟨_, .halted hruns hhalts, rfl⟩
    | none =>
      simp only [hfailure, Option.isSome_none, Bool.false_eq_true, if_false] at hrest ⊢
      obtain ⟨last, hlast, rfl⟩ := Option.map_eq_some_iff.mp hrest
      obtain ⟨passages, hpasses, hmoments⟩ := ih hlast
      exact ⟨_, .next hruns hfailure hpasses, by simp [Driven.after, hmoments]⟩

end Run

namespace Workflow

variable {σ : Type}

/-- The workspaces of a run, at every step that the host comes to and after the last one. -/
def moments (w : Workflow) (host : RunHost σ) (options : RunOptions) (current : FilePath) (s : σ) :
    List Workspace :=
  Run.moments host options.bounds (w.runScope options current) 0
    (Run.initialWorkspace options.given) w.steps (w.beginning host s)

/-- Whatever is bound at one moment of a run is bound at every later one, so a positive condition
that holds before some step holds before every later step. The moments are those at which the
passages of the run begin, and its end. -/
theorem bindings_grow (w : Workflow) (host : RunHost σ) (options : RunOptions) (current : FilePath)
    (s : σ) : (w.moments host options current s).Pairwise Workspace.GrowsTo ∧
      (∀ c : Condition, c.IsPositive →
        (w.moments host options current s).Pairwise fun earlier later =>
          ∀ isFile isFile', (c.evaluation earlier isFile).1 = true →
            (c.evaluation later isFile').1 = true) ∧
      ∀ d, w.run host options current s = some d →
        ∃ passages, Run.Passes options.bounds (w.runScope options current) 0
            (Run.initialWorkspace options.given) w.steps passages
            ⟨d.result.failure, d.result.workspace⟩ ∧
          w.moments host options current s =
            passages.map (·.before) ++ [d.result.workspace] := by
  have hgrow := Run.pairwise_moments host options.bounds (w.runScope options current) w.steps 0
    (Run.initialWorkspace options.given) (w.beginning host s)
  refine ⟨hgrow, fun c hc => hgrow.imp fun hgrows isFile isFile' => ?_, fun d hd => ?_⟩
  · exact hc.passesOn hgrows isFile isFile' [] []
  · obtain ⟨conclude, hrun, hconclude⟩ := w.run_eq host options current s
    obtain ⟨steps, hcourse, rfl⟩ := Option.map_eq_some_iff.mp (hrun.symm.trans hd)
    obtain ⟨passages, hpasses, hmoments⟩ := Run.exists_passes_of_drive hcourse
    rw [(hconclude steps).failure, (hconclude steps).workspace]
    exact ⟨passages, hpasses, hmoments⟩

/-- Two commands whose output is captured, and a step that is not reached if one of them fails. -/
def capturing : Workflow :=
  ⟨none, none, none, [],
    [⟨none, .action (.run ⟨"first", none, .never, none, false, [], [⟨"v", .full⟩]⟩)⟩,
      ⟨none, .action (.run ⟨"second", none, .never, none, false, [], [⟨"v", .full⟩]⟩)⟩,
      ⟨none, .action (.fail "stop")⟩], ⟨none, none, []⟩⟩

/-- The second command fails, and the others print a line. -/
def halfway : Rehearsal :=
  ⟨[("second", [⟨false, some 1, [], [], false, .zero⟩])],
    ⟨true, some 0, ["new"], [], false, .zero⟩, [], [], .zero, []⟩

theorem bindings_grow_captured : ∃ d : RunDriven Rehearsal Run,
    capturing.run Rehearsal.host ⟨[], .standard, ⟨1, 1⟩⟩ "/" halfway = some d ∧
    (Condition.any [.choiceMade "w", .varExists "v"]).IsPositive ∧
    (capturing.moments Rehearsal.host ⟨[], .standard, ⟨1, 1⟩⟩ "/" halfway).map (·.isBound "v") =
      [false, true, true] ∧
    (capturing.moments Rehearsal.host ⟨[], .standard, ⟨1, 1⟩⟩ "/" halfway).Pairwise
      (fun earlier later => ∀ isFile isFile',
        ((Condition.any [.choiceMade "w", .varExists "v"]).evaluation earlier isFile).1 = true →
          ((Condition.any [.choiceMade "w", .varExists "v"]).evaluation later isFile').1 = true) ∧
    ∃ passages : List Run.Passage,
      capturing.moments Rehearsal.host ⟨[], .standard, ⟨1, 1⟩⟩ "/" halfway =
        passages.map (·.before) ++ [d.result.workspace] := by
  have hends : (capturing.run Rehearsal.host ⟨[], .standard, ⟨1, 1⟩⟩ "/" halfway).isSome = true := by
    decide +kernel
  obtain ⟨d, hd⟩ := Option.isSome_iff_exists.mp hends
  have hpositive : (Condition.any [.choiceMade "w", .varExists "v"]).IsPositive := by
    refine .any fun c hc => ?_
    simp only [List.mem_cons, List.not_mem_nil, or_false] at hc
    rcases hc with rfl | rfl
    · exact .choiceMade "w"
    · exact .varExists "v"
  obtain ⟨-, hconditions, hpassages⟩ :=
    bindings_grow capturing Rehearsal.host ⟨[], .standard, ⟨1, 1⟩⟩ "/" halfway
  obtain ⟨passages, -, hmoments⟩ := hpassages _ hd
  exact ⟨d, hd, hpositive, by decide +kernel, hconditions _ hpositive, passages, hmoments⟩

end Workflow

end Runbook
