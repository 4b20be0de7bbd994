import Runbook.Proofs.HistoryGrammar

/-!
The outcomes of steps, in the workspace and in the history. A step that is over leaves its outcome
in the workspace and an event that closes it, but for a question without an answer, which leaves
the event only. Main statement: at the end of a run the outcomes in the workspace are those of the
events that close a step other than for want of an answer, in their order and no others.
-/

namespace Runbook

open Program (Runs)

/-! ### Events that close steps -/

namespace Occurrence

/-- The step that is over with this, and its outcome. What closes a branch closes no step. -/
def closed? : Occurrence → Option (Nat × StepOutcome)
  | .stepCompleted step none _ _ code _ => some (step, ⟨true, code⟩)
  | .stepFailed step none _ _ code _ _ => some (step, ⟨false, code⟩)
  | .parallelFinished step success => some (step, ⟨success, none⟩)
  | _ => none

/-- Whether a step is over with this because nobody answered its question. -/
def isUnanswered : Occurrence → Bool
  | .stepFailed _ none kind .. => kind == "choose" || kind == "prompt"
  | _ => false

theorem closed?_eq_none_of_branch {o : Occurrence} {branch : Nat} (h : o.branch? = some branch) :
    o.closed? = none := by
  cases o with
  | stepCompleted | stepFailed =>
    obtain rfl : _ = some branch := h
    rfl
  | parallelFinished => simp [branch?] at h
  | _ => rfl

/-- A question without an answer closes its step. -/
theorem isUnanswered_eq_false_of_closed? {o : Occurrence} (h : o.closed? = none) :
    o.isUnanswered = false := by
  cases o with
  | stepFailed _ branch => cases branch <;> simp_all [closed?, isUnanswered]
  | _ => rfl

end Occurrence

def closings (os : List Occurrence) : List (Nat × StepOutcome) := os.filterMap Occurrence.closed?

/-- The steps that events close other than for want of an answer, with their outcomes. -/
def settled (os : List Occurrence) : List (Nat × StepOutcome) :=
  closings (os.filter fun o => !o.isUnanswered)

section Closings

variable {os : List Occurrence}

@[simp] theorem closings_nil : closings [] = [] := rfl

@[simp] theorem closings_append (os more : List Occurrence) :
    closings (os ++ more) = closings os ++ closings more :=
  List.filterMap_append

theorem closings_singleton {o : Occurrence} {entry : Nat × StepOutcome}
    (h : o.closed? = some entry) : closings [o] = [entry] :=
  List.filterMap_cons_some h

theorem closings_eq_nil_iff : closings os = [] ↔ ∀ o ∈ os, o.closed? = none :=
  List.filterMap_eq_nil_iff

@[simp] theorem settled_append (os more : List Occurrence) :
    settled (os ++ more) = settled os ++ settled more := by
  simp [settled]

theorem mem_settled {entry : Nat × StepOutcome} :
    entry ∈ settled os ↔ ∃ o ∈ os, o.closed? = some entry ∧ o.isUnanswered = false := by
  simp only [settled, closings, List.mem_filterMap, List.mem_filter, Bool.not_eq_true', and_assoc]
  exact exists_congr fun _ => and_congr_right fun _ => and_comm

theorem settled_sublist (os : List Occurrence) : (settled os).Sublist (closings os) :=
  List.filter_sublist.filterMap _

theorem settled_eq_closings (h : ∀ o ∈ os, o.isUnanswered = false) : settled os = closings os := by
  unfold settled
  rw [List.filter_eq_self.mpr fun o ho => by simp [h o ho]]

theorem settled_eq_nil (h : closings os = []) : settled os = [] :=
  List.sublist_nil.mp (h ▸ settled_sublist os)

theorem eq_of_closed? (h : (closings os).Pairwise fun a b => a.1 < b.1) {o o' : Occurrence}
    (ho : o ∈ os) (ho' : o' ∈ os) {index : Nat} {outcome outcome' : StepOutcome}
    (hclosed : o.closed? = some (index, outcome)) (hclosed' : o'.closed? = some (index, outcome')) :
    o = o' := by
  have hordered := List.pairwise_iff_getElem.mp (List.pairwise_filterMap.mp h)
  obtain ⟨i, hi, rfl⟩ := List.getElem_of_mem ho
  obtain ⟨j, hj, rfl⟩ := List.getElem_of_mem ho'
  rcases Nat.lt_trichotomy i j with hij | rfl | hij
  · have hlt : index < index := hordered i j hi hj hij _ hclosed _ hclosed'
    exact absurd hlt (Nat.lt_irrefl index)
  · rfl
  · have hlt : index < index := hordered j i hj hi hij _ hclosed' _ hclosed
    exact absurd hlt (Nat.lt_irrefl index)

theorem isUnanswered_eq_false_of_closings (h : closings os = []) :
    ∀ o ∈ os, o.isUnanswered = false := fun o ho =>
  Occurrence.isUnanswered_eq_false_of_closed? (closings_eq_nil_iff.mp h o ho)

theorem closings_retries (scope : RunScope) (index : Nat) (branch : Option Nat) (made n : Nat) :
    closings (retries scope index branch made n) = [] := by
  simp [closings, retries, Occurrence.closed?]

theorem Levels.closings_eq_nil {scope : RunScope} {index : Nat} {branch : Option Nat} {level : Nat}
    {fallbacks : List Fallback} (h : Levels scope index branch level fallbacks os) :
    closings os = [] := by
  induction h with
  | nil => rfl
  | @next level f rest command n os _ ih =>
    have hopening : closings [.fallbackStarted index branch level command] = [] := rfl
    rw [← List.singleton_append, closings_append, closings_append, hopening, closings_retries, ih]
    rfl

end Closings

/-! ### Workspaces with the same outcomes -/

theorem RunStep.outcomes_applyCaptures {rules : List CaptureRule} {lines : List String}
    {w captured : Workspace} (h : applyCaptures rules lines w = .ok captured) :
    captured.outcomes = w.outcomes :=
  applyCaptures_induction (motive := fun v => v.outcomes = w.outcomes) rfl (fun _ _ _ hv => hv) h

theorem RunStep.Executed.outcomes_eq {step : RunStep} {scope : RunScope} {label : StepLabel}
    {w : Workspace} {es : RunTrace} {result : RunStepResult}
    (h : Executed step scope label w es result) : result.workspace.outcomes = w.outcomes := by
  cases h with
  | captured _ _ hcaptured => exact outcomes_applyCaptures hcaptured
  | fellBack _ _ _ => rfl

theorem Run.outcomes_mergeAll (w : Workspace) (ends : List Branch.End) :
    (mergeAll w ends).outcomes = w.outcomes := by
  unfold mergeAll
  induction ends generalizing w with
  | nil => rfl
  | cons e rest ih => exact ih _

theorem Run.outcomes_initialWorkspace (given : Bindings String) :
    (initialWorkspace given).outcomes = [] ∧ (initialWorkspace given).last = none := ⟨rfl, rfl⟩

/-! ### Steps -/

namespace Run

/-- What a step records, and what it does to the outcomes in the workspace: nothing at all, or it is
closed and its outcome is there, or it is closed for want of an answer and the run halts. -/
inductive Closes (index : Nat) (w : Workspace) : List Occurrence → StepEnd → Prop where
  | skipped {os} (hos : closings os = []) : Closes index w os ⟨none, w⟩
  | closed {inner o outcome failure} {w' : Workspace} (hinner : closings inner = [])
      (ho : o.closed? = some (index, outcome)) (hanswered : o.isUnanswered = false)
      (hw' : w'.outcomes = w.outcomes) :
    Closes index w (inner ++ [o]) ⟨failure, w'.setOutcome index outcome⟩
  | unanswered {o message} (ho : o.closed? = some (index, ⟨false, none⟩))
      (hunanswered : o.isUnanswered = true) : Closes index w [o] ⟨some message, w⟩

section Steps

variable {scope : RunScope} {index : Nat} {w : Workspace} {es : RunTrace} {e : StepEnd}

theorem closes_of_runs_take {step : RunStep} {label : StepLabel} {result : RunStepResult}
    (hlabel : label.branch = none) (h : Runs (step.take scope label label.index w) es result)
    (failure : Option String) :
    Closes label.index w (recorded es) ⟨failure, result.workspace⟩ := by
  obtain ⟨_, final, n, os, milliseconds, hfinal, hlevels, hes, rfl⟩ :=
    RunStep.recorded_of_runs_take h
  rw [hes]
  refine .closed ?_ ?_ ?_ hfinal.outcomes_eq
  · rw [closings_append, closings_retries, hlevels.closings_eq_nil, List.append_nil]
  · unfold RunStep.closing
    cases final.outcome.success <;> simp [hlabel, Occurrence.closed?]
  · unfold RunStep.closing
    cases final.outcome.success <;> simp [hlabel, Occurrence.isUnanswered]

theorem closes_of_runs_question {label : StepLabel} {name : String} {question : Question}
    (hkind : label.kind = "choose" ∨ label.kind = "prompt") (make : String → ResolvedValue)
    (bound : String → Workspace) (hbound : ∀ value, (bound value).outcomes = w.outcomes)
    (h : Runs (do
      let start ← Task.clock
      match ← Step.valueOrAnswer scope name question with
      | .ok value => Step.complete label (make value) start.time (bound value)
      | .error cause => Step.unanswered label cause start.time w) es e) :
    Closes label.index w (recorded es) e := by
  rcases Step.recorded_of_runs_question make bound h with
    ⟨value, milliseconds, hes, rfl⟩ | ⟨cause, milliseconds, hes, rfl⟩
  · rw [hes, ← List.nil_append [_]]
    exact .closed rfl rfl rfl (hbound value)
  · rw [hes]
    exact .unanswered rfl (by simpa [Occurrence.isUnanswered] using hkind)

theorem closes_of_runs_act {action : Action} {label : StepLabel} (hlabel : label.branch = none)
    (hkind : label.kind = action.kind) (h : Runs (Step.act action scope label w) es e) :
    Closes label.index w (recorded es) e := by
  cases action with
  | run step =>
    obtain ⟨taken, result, _, rfl, htaken, rfl, rfl⟩ := Program.runs_bind.mp h
    rw [List.append_nil]
    exact closes_of_runs_take hlabel htaken _
  | choose choice =>
    exact closes_of_runs_question (.inl hkind) .choice
      (fun id => (w.setChoice id id).setVariable choice.variableName id) (fun _ => rfl) h
  | prompt entry =>
    exact closes_of_runs_question (.inr hkind) .prompt
      (fun value => (w.setVariable entry.storeAs value).setFact entry.storeAs (.text value))
      (fun _ => rfl) h
  | fail message =>
    obtain ⟨stamp, rfl, rfl⟩ := Step.runs_fail h
    rw [recorded_record, recorded_nil, hlabel, ← List.nil_append [_]]
    exact .closed rfl rfl rfl rfl

theorem BranchesTaken.closings_eq_nil {branches : List Branch} {parts : List (RunTrace × Branch.End)}
    (h : BranchesTaken scope branches index w parts) {woven : RunTrace}
    (hwoven : Woven (Pool.IsPick Task.pick) (parts.map Prod.fst) woven) :
    closings (recorded woven) = [] := by
  have hclosings : ∀ es : RunTrace, closings (recorded es) =
      es.filterMap fun e => (occurrence? e).bind Occurrence.closed? :=
    fun _ => List.filterMap_filterMap
  rw [hclosings]
  refine hwoven.filterMap_eq_nil _ (fun picks hpicks => ?_) fun es hes => ?_
  · rw [← hclosings, recorded_of_isPick hpicks, closings_nil]
  · obtain ⟨part, hpart, rfl⟩ := List.mem_map.mp hes
    obtain ⟨i, hi, rfl⟩ := List.getElem_of_mem hpart
    have hblock := (h.taken (h.length_eq ▸ hi) hi).branchBlock rfl
    rw [← hclosings]
    exact closings_eq_nil_iff.mpr fun o ho =>
      Occurrence.closed?_eq_none_of_branch (hblock.branch?_of_mem o ho)

theorem ParallelTaken.closes {branches : List Branch} {label : StepLabel}
    (h : ParallelTaken scope branches label w es e) : Closes label.index w (recorded es) e := by
  cases h with
  | @joined parts woven success opened closed hparts hwoven _ =>
    rw [recorded_joined, ← List.cons_append]
    refine .closed ?_ rfl rfl (outcomes_mergeAll w _)
    exact hparts.closings_eq_nil hwoven

theorem StepTaken.closes {step : Step} (h : StepTaken scope step index w es e) :
    Closes index w (recorded es) e := by
  cases h with
  | skipped hdue =>
    rw [recorded_append, recorded_of_runs_isDue hdue]
    exact .skipped rfl
  | @action checks action es e hdue hbody hact =>
    rw [recorded_append, recorded_of_runs_isDue hdue]
    have hkind : (stepLabel scope step index w).kind = action.kind := by
      simp [stepLabel, hbody, StepBody.kind]
    exact closes_of_runs_act rfl hkind hact
  | parallel hdue _ htaken =>
    rw [recorded_append, recorded_of_runs_isDue hdue]
    exact htaken.closes

end Steps

/-! ### Runs -/

/-- How the outcomes of steps follow from what they record: the workspace has those of before and
then the ones settled, the last of which is the last outcome; the steps are closed in their order,
each once; and only at a halt is there a question without an answer. -/
structure Accounts (index bound : Nat) (w : Workspace) (os : List Occurrence) (e : StepEnd) :
    Prop where
  outcomes : e.workspace.outcomes = w.outcomes ++ settled os
  last : e.workspace.last = ((settled os).getLast?.map Prod.fst).or w.last
  ascending : (closings os).Pairwise fun a b => a.1 < b.1
  within : ∀ entry ∈ closings os, index ≤ entry.1 ∧ entry.1 < bound
  answered : e.failure = none → ∀ o ∈ os, o.isUnanswered = false

section Runs

variable {index : Nat} {w : Workspace} {os : List Occurrence} {e : StepEnd}

theorem Closes.accounts (h : Closes index w os e) (hw : ∀ entry ∈ w.outcomes, entry.1 < index) :
    Accounts index (index + 1) w os e := by
  cases h with
  | skipped hos =>
    have hsettled := settled_eq_nil hos
    exact ⟨by simp [hsettled], by simp [hsettled], by simp [hos], by simp [hos],
      fun _ => isUnanswered_eq_false_of_closings hos⟩
  | @closed inner o outcome failure w' hinner ho hanswered hw' =>
    have hall : ∀ o' ∈ inner ++ [o], o'.isUnanswered = false := by
      intro o' ho'
      rcases List.mem_append.mp ho' with ho' | ho'
      · exact isUnanswered_eq_false_of_closings hinner o' ho'
      · rwa [List.mem_singleton.mp ho']
    have hclosings : closings (inner ++ [o]) = [(index, outcome)] := by
      rw [closings_append, hinner, closings_singleton ho, List.nil_append]
    have hsettled := (settled_eq_closings hall).trans hclosings
    refine ⟨?_, by simp [hsettled, Workspace.setOutcome], by simp [hclosings],
      by simp [hclosings], fun _ => hall⟩
    rw [hsettled, ← Bindings.bind_eq_append hw, ← hw']
    rfl
  | @unanswered o message ho hunanswered =>
    have hclosings := closings_singleton ho
    have hsettled : settled [o] = [] := by simp [settled, hunanswered]
    exact ⟨by simp [hsettled], by simp [hsettled], by simp [hclosings], by simp [hclosings],
      by simp⟩

namespace Accounts

theorem nil (index : Nat) (w : Workspace) : Accounts index index w [] ⟨none, w⟩ where
  outcomes := by simp [settled]
  last := by simp [settled]
  ascending := .nil
  within := by simp
  answered := by simp

theorem mem_within {bound : Nat} (h : Accounts index bound w os e)
    (hw : ∀ entry ∈ w.outcomes, entry.1 < index) (hle : index ≤ bound) :
    ∀ entry ∈ e.workspace.outcomes, entry.1 < bound := by
  intro entry hentry
  rw [h.outcomes] at hentry
  rcases List.mem_append.mp hentry with hold | hnew
  · exact Nat.lt_of_lt_of_le (hw entry hold) hle
  · exact (h.within entry ((settled_sublist os).subset hnew)).2

/-- Steps after others: what was said of the first and of the second holds of all of them. -/
theorem append {middle bound : Nat} {taken : StepEnd} {more : List Occurrence}
    (h : Accounts index middle w os taken) (hgo : taken.failure = none)
    (hmore : Accounts middle bound taken.workspace more e) (hfirst : index ≤ middle)
    (hsecond : middle ≤ bound) : Accounts index bound w (os ++ more) e where
  outcomes := by rw [hmore.outcomes, h.outcomes, settled_append, List.append_assoc]
  last := by
    rw [hmore.last, h.last, settled_append, List.getLast?_append, ← Option.or_assoc]
    congr 1
    cases (settled more).getLast? <;> rfl
  ascending := by
    rw [closings_append]
    refine List.pairwise_append.mpr ⟨h.ascending, hmore.ascending, fun a ha b hb => ?_⟩
    exact Nat.lt_of_lt_of_le (h.within a ha).2 (hmore.within b hb).1
  within := by
    intro entry hentry
    rw [closings_append] at hentry
    rcases List.mem_append.mp hentry with hentry | hentry
    · have := h.within entry hentry
      omega
    · have := hmore.within entry hentry
      omega
  answered := fun hnone o ho =>
    (List.mem_append.mp ho).elim (h.answered hgo o) (hmore.answered hnone o)

/-- A halt: the steps that were not reached are not closed. -/
theorem mono {bound bound' : Nat} (h : Accounts index bound w os e) (hle : bound ≤ bound') :
    Accounts index bound' w os e :=
  { h with within := fun entry hentry =>
      ⟨(h.within entry hentry).1, Nat.lt_of_lt_of_le (h.within entry hentry).2 hle⟩ }

theorem pad {bound : Nat} {front back : List Occurrence} (h : Accounts index bound w os e)
    (hfront : closings front = []) (hback : closings back = []) :
    Accounts index bound w (front ++ os ++ back) e := by
  have hclosings : closings (front ++ os ++ back) = closings os := by simp [hfront, hback]
  have hsettled : settled (front ++ os ++ back) = settled os := by
    simp [settled_eq_nil hfront, settled_eq_nil hback]
  refine ⟨hsettled ▸ h.outcomes, hsettled ▸ h.last, hclosings ▸ h.ascending,
    hclosings ▸ h.within, fun hnone o ho => ?_⟩
  rcases List.mem_append.mp ho with ho | ho
  · rcases List.mem_append.mp ho with ho | ho
    · exact isUnanswered_eq_false_of_closings hfront o ho
    · exact h.answered hnone o ho
  · exact isUnanswered_eq_false_of_closings hback o ho

end Accounts

theorem accounts_of_runs_takeSteps {bounds : RunBounds} {scope : RunScope} {steps : List Step}
    (hsteps : ∀ step ∈ steps, step.IsWellFormed) {es : RunTrace}
    (h : Runs (takeSteps bounds scope index w steps) es e)
    (hw : ∀ entry ∈ w.outcomes, entry.1 < index) :
    Accounts index (index + steps.length) w (recorded es) e := by
  induction steps generalizing index w es with
  | nil =>
    obtain ⟨rfl, rfl⟩ := h
    exact .nil index w
  | cons step rest ih =>
    obtain ⟨front, taken, back, rfl, hfront, hback⟩ := Program.runs_bind.mp h
    have hstep := (stepTaken_of_runs (hsteps step List.mem_cons_self) hfront).closes.accounts hw
    rw [recorded_append, List.length_cons]
    cases hfailure : taken.failure with
    | some message =>
      simp only [hfailure, Option.isSome_some, if_true] at hback
      obtain ⟨rfl, rfl⟩ := hback
      rw [recorded_nil, List.append_nil]
      exact hstep.mono (by omega)
    | none =>
      simp only [hfailure, Option.isSome_none, Bool.false_eq_true, if_false] at hback
      have hrest := ih (fun s hs => hsteps s (List.mem_cons_of_mem _ hs)) hback
        (hstep.mem_within hw (Nat.le_succ index))
      rw [Nat.add_right_comm] at hrest
      exact hstep.append hfailure hrest (Nat.le_succ index) (by omega)

end Runs

def occurrences (r : Run) : List Occurrence := r.history.events.map (·.occurrence)

/-- What the workspace and the history of a run that is over say of its steps. -/
structure Agrees (r : Run) (stepCount : Nat) : Prop where
  /-- The outcome of a step is there just if an event closed the step with it, other than for want
  of an answer. -/
  outcome : ∀ index outcome, r.workspace.outcome? index = some outcome ↔
    ∃ o ∈ r.occurrences, o.closed? = some (index, outcome) ∧ o.isUnanswered = false
  /-- The last outcome is that of the latest of these events. -/
  last : r.workspace.lastOutcome? = (settled r.occurrences).getLast?.map Prod.snd
  /-- There are outcomes of steps only. -/
  keys : ∀ entry ∈ r.workspace.outcomes, entry.1 < stepCount
  /-- Steps are closed in their order, each of them once. -/
  ascending : (closings r.occurrences).Pairwise fun a b => a.1 < b.1
  /-- A question without an answer fails the run, and its step has no outcome. -/
  unanswered : ∀ o ∈ r.occurrences, o.isUnanswered = true → r.failure ≠ none ∧
    ∃ index outcome, o.closed? = some (index, outcome) ∧ r.workspace.outcome? index = none

theorem Accounts.agrees {r : Run} {stepCount : Nat} {w : Workspace} (houtcomes : w.outcomes = [])
    (hlast : w.last = none)
    (h : Accounts 0 stepCount w r.occurrences ⟨r.failure, r.workspace⟩) : r.Agrees stepCount := by
  have hkept : r.workspace.outcomes = settled r.occurrences := by
    rw [h.outcomes, houtcomes, List.nil_append]
  have hsorted : Bindings.Sorted (settled r.occurrences) :=
    h.ascending.sublist (settled_sublist r.occurrences)
  have hmem : ∀ index outcome, r.workspace.outcome? index = some outcome ↔
      (index, outcome) ∈ settled r.occurrences := by
    intro index outcome
    rw [Workspace.outcome?, hkept, hsorted.find?_eq_some_iff]
  have houtcome : ∀ index outcome, r.workspace.outcome? index = some outcome ↔
      ∃ o ∈ r.occurrences, o.closed? = some (index, outcome) ∧ o.isUnanswered = false :=
    fun index outcome => (hmem index outcome).trans mem_settled
  refine ⟨houtcome, ?_, h.mem_within (by simp [houtcomes]) (Nat.zero_le _), h.ascending, ?_⟩
  · rw [Workspace.lastOutcome?, h.last, hlast, Option.or_none]
    cases hlatest : (settled r.occurrences).getLast? with
    | none => rfl
    | some entry => exact (hmem entry.1 entry.2).mpr (List.mem_of_getLast? hlatest)
  · intro o ho hunanswered
    refine ⟨fun hnone => ?_, ?_⟩
    · simp [h.answered hnone o ho] at hunanswered
    · obtain ⟨⟨index, outcome⟩, hclosed⟩ : ∃ entry, o.closed? = some entry := by
        refine Option.ne_none_iff_exists'.mp fun hnone => ?_
        simp [Occurrence.isUnanswered_eq_false_of_closed? hnone] at hunanswered
      refine ⟨index, outcome, hclosed, Option.eq_none_iff_forall_ne_some.mpr fun other hother => ?_⟩
      -- the step would be closed twice
      obtain ⟨o', ho', hclosed', hanswered⟩ := (houtcome index other).mp hother
      obtain rfl := eq_of_closed? h.ascending ho ho' hclosed hclosed'
      simp [hanswered] at hunanswered

end Run

namespace Workflow

/-- The workspace and the history of a run agree on its steps, whatever the host replies and
whichever branches it picks. -/
theorem outcomes_agree {σ : Type} {host : RunHost σ} {s : σ} {w : Workflow} {options : RunOptions}
    {current : FilePath} {d : RunDriven σ Run} (haccepted : w.IsAccepted)
    (hd : w.run host options current s = some d) : d.result.Agrees w.steps.length := by
  obtain ⟨taken, e, milliseconds, htaken, hfailure, hworkspace, hevents⟩ :=
    runs_task (Program.runs_of_drive hd)
  obtain ⟨houtcomes, hlast⟩ := Run.outcomes_initialWorkspace options.given
  have hsteps := Run.accounts_of_runs_takeSteps haccepted.isWellFormed htaken (by simp [houtcomes])
  have hopening : closings [.runStarted w.name w.steps.length] = [] := rfl
  have hclosing : closings [Run.closing e.failure milliseconds] = [] := by
    cases e.failure <;> rfl
  have hall := hsteps.pad hopening hclosing
  rw [Nat.zero_add] at hall
  refine Run.Accounts.agrees houtcomes hlast ?_
  rw [Run.occurrences, hevents, hfailure, hworkspace]
  exact hall

/-- A document with a step that runs a command and one that asks for a text. -/
def askingDocument : Document :=
  .object [("steps", .list [.object [("run", .text "first")],
    .object [("prompt", .object [("as", .text "v"), ("message", .text "name?")])]])]

def asking : Workflow :=
  ⟨none, none, none, [], [⟨none, .action (.run ⟨"first", none, .never, none, false, [], []⟩)⟩,
    ⟨none, .action (.prompt ⟨"name?", "v", none⟩)⟩], ⟨none, none, []⟩⟩

/-- Commands succeed, and the first question is refused. -/
def refusing : Rehearsal :=
  ⟨[], ⟨true, some 0, [], [], false, .zero⟩, [.refusal "closed"], [], .zero, []⟩

theorem outcomes_agree_asking : ∃ d : RunDriven Rehearsal Run,
    asking.run Rehearsal.host ⟨[], .standard, ⟨1, 1⟩⟩ "/" refusing = some d ∧
    d.result.Agrees 2 ∧ d.result.workspace.outcome? 0 = some ⟨true, some 0⟩ := by
  have haccepted : asking.IsAccepted := ⟨askingDocument, _, rfl, rfl⟩
  have hd : asking.run Rehearsal.host ⟨[], .standard, ⟨1, 1⟩⟩ "/" refusing = some _ := rfl
  exact ⟨_, hd, outcomes_agree haccepted hd, rfl⟩

/-- The second step is closed as failed, and yet it has no outcome: the last one is that of the step
before, which succeeded. -/
theorem unanswered_step_without_outcome : ∃ d : RunDriven Rehearsal Run,
    asking.run Rehearsal.host ⟨[], .standard, ⟨1, 1⟩⟩ "/" refusing = some d ∧
    .stepFailed 1 none "prompt" none none "closed" 0 ∈ d.result.occurrences ∧
    d.result.workspace.outcome? 1 = none ∧
    d.result.workspace.lastOutcome? = some ⟨true, some 0⟩ := by
  have hd : asking.run Rehearsal.host ⟨[], .standard, ⟨1, 1⟩⟩ "/" refusing = some _ := rfl
  exact ⟨_, hd, by decide, rfl, rfl⟩

end Workflow

end Runbook
