import Runbook.Proofs.Acceptance
import Runbook.Proofs.StepTrace

/-!
Traces of parallel steps. Main statement: what a parallel step exchanges with its host is woven of
the exchanges of its branches, each of which starts from the workspace of the step, and its
workspace is merged of theirs.
-/

namespace Runbook

open Program (Runs)

/-! ### Branches -/

namespace Step

theorem runs_fail {message : String} {label : StepLabel} {slot : Nat} {w : Workspace}
    {es : RunTrace} {e : StepEnd} (h : Runs (fail message label slot w) es e) :
    ∃ stamp, es = [⟨.record (.stepFailed label.index label.branch "fail" none none
        (Template.substitute w message) 0), stamp⟩] ∧
      e = ⟨some (Template.substitute w message), w.setOutcome slot ⟨false, none⟩⟩ := by
  obtain ⟨noted, _, _, rfl, hnoted, rfl, rfl⟩ := Program.runs_bind.mp h
  obtain ⟨stamp, rfl⟩ := Task.runs_record hnoted
  exact ⟨stamp, rfl, rfl⟩

end Step

namespace Branch

variable {b : Branch} {scope : RunScope} {label : StepLabel} {branch : Nat} {w : Workspace}

def slot (label : StepLabel) (branch : Nat) : Nat := label.index * stride + branch

/-- What a branch comes down to: it is not due, or it runs a command, or it fails on purpose. -/
inductive Taken (b : Branch) (scope : RunScope) (label : StepLabel) (branch : Nat) (w : Workspace) :
    RunTrace → End → Prop where
  | skipped {checks stamp} (hdue : Runs (Step.isDue b.guard scope w) checks false) :
    Taken b scope label branch w (checks ++ [⟨.display (.stepSkipped label), ()⟩,
      ⟨.record (.stepSkipped label.index (some branch)), stamp⟩]) ⟨true, w⟩
  | run {checks step es result} (hdue : Runs (Step.isDue b.guard scope w) checks true)
      (haction : b.action = .run step)
      (h : Runs (step.take scope label (slot label branch) w) es result) :
    Taken b scope label branch w (checks ++ es)
      ⟨result.outcome.success || step.continueOnError, result.workspace⟩
  | fail {checks message es e} (hdue : Runs (Step.isDue b.guard scope w) checks true)
      (haction : b.action = .fail message)
      (h : Runs (Step.fail message label (slot label branch) w) es e) :
    Taken b scope label branch w (checks ++ es) ⟨false, e.workspace⟩

theorem taken_of_runs (hb : b.IsUnattended) {es : RunTrace} {r : Except String End}
    (h : Runs (b.take scope label branch w) es r) :
    ∃ e, r = .ok e ∧ b.Taken scope label branch w es e := by
  obtain ⟨checks, due, tail, rfl, hdue, htail⟩ := Program.runs_bind.mp h
  cases due with
  | false =>
    obtain ⟨stamp, rfl, rfl⟩ := Task.runs_noting htail
    exact ⟨_, rfl, .skipped hdue⟩
  | true =>
    rcases hb with ⟨step, haction⟩ | ⟨message, haction⟩
    · simp only [haction, if_true] at htail
      obtain ⟨taken, result, _, rfl, htaken, rfl, rfl⟩ := Program.runs_bind.mp htail
      exact ⟨_, rfl, by simpa using .run hdue haction htaken⟩
    · simp only [haction, if_true] at htail
      obtain ⟨failed, e, _, rfl, hfailed, rfl, rfl⟩ := Program.runs_bind.mp htail
      exact ⟨_, rfl, by simpa using .fail hdue haction hfailed⟩

end Branch

/-! ### Parallel steps -/

namespace Run

variable {bounds : RunBounds} {scope : RunScope} {branches : List Branch} {label : StepLabel}
  {w : Workspace}

def mergeAll (w : Workspace) (ends : List Branch.End) : Workspace :=
  ends.foldl (fun w e => w.merge e.workspace) w

theorem mergeBranches_ok (success : Bool) (w : Workspace) (ends : List Branch.End) :
    mergeBranches success w (ends.map .ok) =
      (.ok (success && ends.all (·.success)), mergeAll w ends) := by
  induction ends generalizing success w with
  | nil => simp [mergeBranches, mergeAll]
  | cons e rest ih => simp [mergeBranches, mergeAll, ih, Bool.and_assoc]

def BranchesTaken (scope : RunScope) (branches : List Branch) (index : Nat) (w : Workspace)
    (parts : List (RunTrace × Branch.End)) : Prop :=
  List.Forall₂ (fun (b : Branch × Nat) (part : RunTrace × Branch.End) =>
    b.1.Taken scope (branchLabel scope b.1 index b.2 w) b.2 w part.1 part.2) branches.zipIdx parts

theorem BranchesTaken.taken {index : Nat} {parts : List (RunTrace × Branch.End)}
    (h : BranchesTaken scope branches index w parts) {i : Nat} (hi : i < branches.length)
    (hi' : i < parts.length) : branches[i].Taken scope (branchLabel scope branches[i] index i w) i w
      parts[i].1 parts[i].2 := by
  obtain ⟨_, hget⟩ := List.forall₂_iff_get.mp h
  simpa using hget i (by simpa using hi) hi'

theorem BranchesTaken.length_eq {index : Nat} {parts : List (RunTrace × Branch.End)}
    (h : BranchesTaken scope branches index w parts) : branches.length = parts.length := by
  simpa using List.Forall₂.length_eq h

inductive ParallelTaken (scope : RunScope) (branches : List Branch) (label : StepLabel)
    (w : Workspace) : RunTrace → StepEnd → Prop where
  | joined {parts woven success} {opened closed : Stamp}
      (hparts : BranchesTaken scope branches label.index w parts)
      (hwoven : Woven (Pool.IsPick Task.pick) (parts.map Prod.fst) woven)
      (hsuccess : success = (parts.map Prod.snd).all (·.success)) :
    ParallelTaken scope branches label w
      (⟨.display (.parallelStarted label branches.length), ()⟩ ::
        ⟨.record (.parallelStarted label.index branches.length), opened⟩ :: (woven ++
        [⟨.display (.parallelFinished label success), ()⟩,
          ⟨.record (.parallelFinished label.index success), closed⟩]))
      ⟨if success then none else some (label.name ++ " failed"),
        (mergeAll w (parts.map Prod.snd)).setOutcome label.index ⟨success, none⟩⟩

theorem recorded_joined (label : StepLabel) (count : Nat) (opened closed : Stamp)
    (woven : RunTrace) (success : Bool) :
    recorded (⟨.display (.parallelStarted label count), ()⟩ ::
      ⟨.record (.parallelStarted label.index count), opened⟩ :: (woven ++
      [⟨.display (.parallelFinished label success), ()⟩,
        ⟨.record (.parallelFinished label.index success), closed⟩])) =
    .parallelStarted label.index count ::
      (recorded woven ++ [.parallelFinished label.index success]) := by
  rw [recorded_cons_of_none rfl, recorded_record, recorded_append, recorded_cons_of_none rfl,
    recorded_record, recorded_nil]

theorem branchesTaken_of_runs (hb : ∀ b ∈ branches, b.IsUnattended) {index : Nat}
    {runs : List (RunTrace × Except String Branch.End)}
    (h : List.Forall₂ (fun p r => Runs p r.1 r.2) (branchTasks scope branches index w) runs) :
    ∃ parts, BranchesTaken scope branches index w parts ∧
      runs = parts.map fun part => (part.1, .ok part.2) := by
  rw [branchTasks, List.forall₂_map_left_iff] at h
  have hall : ∀ b ∈ branches.zipIdx, b.1.IsUnattended := fun b hmem =>
    hb b.1 (List.fst_mem_of_mem_zipIdx hmem)
  unfold BranchesTaken
  generalize branches.zipIdx = places at h hall
  induction h with
  | nil => exact ⟨[], .nil, rfl⟩
  | @cons b r _ _ hr _ ih =>
    obtain ⟨parts, hparts, rfl⟩ := ih fun c hc => hall c (List.mem_cons_of_mem _ hc)
    obtain ⟨e, he, htaken⟩ := Branch.taken_of_runs (hall b List.mem_cons_self) hr
    exact ⟨(r.1, e) :: parts, .cons htaken hparts, by simp [← he]⟩

/-- What a parallel step exchanges: it begins, its branches are driven together, and if all of them
could be taken, it is over. -/
theorem woven_of_runs_takeParallel {es : RunTrace} {e : StepEnd}
    (h : Runs (takeParallel bounds scope branches label w) es e) :
    ∃ opened runs woven back,
      es = ⟨.display (.parallelStarted label branches.length), ()⟩ ::
        ⟨.record (.parallelStarted label.index branches.length), opened⟩ :: (woven ++ back) ∧
      List.Forall₂ (fun p r => Runs p r.1 r.2) (branchTasks scope branches label.index w) runs ∧
      Woven (Pool.IsPick Task.pick) (runs.map Prod.fst) woven ∧
      match mergeBranches true w (runs.map Prod.snd) with
      | (.error cause, w) => back = [] ∧ e = ⟨some (label.name ++ " failed: " ++ cause), w⟩
      | (.ok success, w) => (∃ closed, back = [⟨.display (.parallelFinished label success), ()⟩,
          ⟨.record (.parallelFinished label.index success), closed⟩]) ∧
        e = ⟨if success then none else some (label.name ++ " failed"),
          w.setOutcome label.index ⟨success, none⟩⟩ := by
  obtain ⟨shown, _, tail, rfl, hshown, htail⟩ := Program.runs_bind.mp h
  obtain rfl := Task.runs_display hshown
  obtain ⟨noted, _, rest, rfl, hnoted, hrest⟩ := Program.runs_bind.mp htail
  obtain ⟨opened, rfl⟩ := Task.runs_record hnoted
  obtain ⟨woven, ends, back, rfl, hjoin, hback⟩ := Program.runs_bind.mp hrest
  obtain ⟨runs, hruns, rfl, hwoven⟩ := Pool.runs_join hjoin
  refine ⟨opened, runs, woven, back, rfl, hruns, hwoven, ?_⟩
  rcases hmerge : mergeBranches true w (runs.map Prod.snd) with ⟨cause | success, v⟩
  · rw [hmerge] at hback
    exact hback
  · rw [hmerge] at hback
    obtain ⟨closed, rfl, rfl⟩ := Task.runs_noting hback
    exact ⟨⟨closed, rfl⟩, rfl⟩

theorem parallelTaken_of_runs (hb : ∀ b ∈ branches, b.IsUnattended) {es : RunTrace} {e : StepEnd}
    (h : Runs (takeParallel bounds scope branches label w) es e) :
    ParallelTaken scope branches label w es e := by
  obtain ⟨opened, runs, woven, back, rfl, hruns, hwoven, hend⟩ := woven_of_runs_takeParallel h
  obtain ⟨parts, hparts, rfl⟩ := branchesTaken_of_runs hb hruns
  have htraces : (parts.map fun part => (part.1, (.ok part.2 : Except String _))).map Prod.fst =
      parts.map Prod.fst := by simp [Function.comp_def]
  have hends : (parts.map fun part => (part.1, (.ok part.2 : Except String _))).map Prod.snd =
      (parts.map Prod.snd).map .ok := by simp
  rw [htraces] at hwoven
  rw [hends, mergeBranches_ok] at hend
  simp only [Bool.true_and] at hend
  obtain ⟨⟨closed, rfl⟩, rfl⟩ := hend
  exact .joined hparts hwoven rfl

inductive StepTaken (scope : RunScope) (step : Step) (index : Nat) (w : Workspace) :
    RunTrace → StepEnd → Prop where
  | skipped {checks stamp} (hdue : Runs (Step.isDue step.guard scope w) checks false) :
    StepTaken scope step index w (checks ++
      [⟨.display (.stepSkipped (stepLabel scope step index w)), ()⟩,
        ⟨.record (.stepSkipped index none), stamp⟩]) ⟨none, w⟩
  | action {checks action es e} (hdue : Runs (Step.isDue step.guard scope w) checks true)
      (hbody : step.body = .action action)
      (h : Runs (Step.act action scope (stepLabel scope step index w) w) es e) :
    StepTaken scope step index w (checks ++ es) e
  | parallel {checks branches es e} (hdue : Runs (Step.isDue step.guard scope w) checks true)
      (hbody : step.body = .parallel branches)
      (h : ParallelTaken scope branches (stepLabel scope step index w) w es e) :
    StepTaken scope step index w (checks ++ es) e

theorem stepTaken_of_runs {step : Step} {index : Nat} (hstep : step.IsWellFormed) {es : RunTrace}
    {e : StepEnd} (h : Runs (takeStep bounds scope step index w) es e) :
    StepTaken scope step index w es e := by
  obtain ⟨checks, due, tail, rfl, hdue, htail⟩ := Program.runs_bind.mp h
  cases due with
  | false =>
    obtain ⟨stamp, rfl, rfl⟩ := Task.runs_noting htail
    exact .skipped hdue
  | true =>
    cases hbody : step.body with
    | action action =>
      simp only [hbody, if_true] at htail
      exact .action hdue hbody htail
    | parallel branches =>
      simp only [hbody, if_true] at htail
      exact .parallel hdue hbody (parallelTaken_of_runs (hstep branches hbody) htail)

end Run

end Runbook
