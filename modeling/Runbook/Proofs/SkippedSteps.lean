import Runbook.Proofs.Relocation

/-!
Steps that a run skips. A skipped step looks up files and records that it is skipped; it leaves the
workspace as it is and asks nothing of the host that another step could notice. Main statement: a
run without the steps that were skipped makes the same demands on its host, in the same order, and
comes to the same end, in the same workspace but for the numbers of the steps.
-/

namespace Runbook

open Program (Runs)
open Runbook.Task (Mirrors)
open Workspace (Tracks Settles)

/-! ### Demands -/

/-- What a run wants done outside of it: a command is run, or a question is answered. -/
inductive Demand where
  | command (text : String) (shell : Option (List String)) (directory : Option FilePath)
      (timeout : Option Duration)
  | question (question : Question)
  deriving DecidableEq, Repr

def Effect.demand? : Effect → Option Demand
  | .start request =>
    some (.command request.command request.shell request.directory request.timeout)
  | .ask question => some (.question question)
  | _ => none

def demands (es : RunTrace) : List Demand := es.filterMap (·.call.demand?)

@[simp] theorem demands_nil : demands [] = [] := rfl

@[simp] theorem demands_append (es fs : RunTrace) :
    demands (es ++ fs) = demands es ++ demands fs :=
  List.filterMap_append

theorem demands_cons (e : Exchange Effect.interface) (es : RunTrace) :
    demands (e :: es) = (Effect.demand? e.call).toList ++ demands es :=
  filterMap_cons_toList _ e es

theorem Effect.Moved.demand?_eq {c c' : Effect} (h : c.Moved c') : c'.demand? = c.demand? := by
  cases h with
  | start h => simp only [demand?, h.command, h.shell, h.directory, h.timeout]
  | _ => rfl

theorem Effect.demand?_of_isFrame {c : Effect} (h : c.IsFrame) : c.demand? = none := by
  cases c with
  | start | ask => exact h.elim
  | _ => rfl

/-! ### Hosts that do not look at the places of steps -/

def Effect.IsPassing : Effect → Prop
  | .check _ | .display (.stepSkipped _) | .record (.stepSkipped ..) => True
  | _ => False

namespace RunHost

variable {σ : Type}

/-- States that a host behaves alike in, if it does not look at the places of steps nor at what is
recorded: it replies alike to the same effects, and where a step is skipped, nothing happens. -/
structure OverlooksPlaces (h : RunHost σ) (R : σ → σ → Prop) : Prop where
  agree : ∀ {s s' c c'}, R s s' → Effect.Moved c c' → c.Agree c' (h s c).1 (h s' c').1
  next : ∀ {s s' c c'}, R s s' → Effect.Moved c c' → R (h s c).2 (h s' c').2
  passing : ∀ {s s' c}, R s s' → Effect.IsPassing c → R (h s c).2 s'

def IgnoresPlaces (h : RunHost σ) (s : σ) : Prop := ∃ R, h.OverlooksPlaces R ∧ R s s

end RunHost

theorem Rehearsal.ignoresPlaces (r : Rehearsal) : Rehearsal.host.IgnoresPlaces r := by
  refine ⟨Eq, ⟨?_, ?_, ?_⟩, rfl⟩
  · rintro r _ c c' rfl hmoved
    cases hmoved with
    | finish h => simp only [host, Effect.Agree, h.command]
    | check | ask | pick => exact rfl
    | _ => exact trivial
  · rintro r _ c c' rfl hmoved
    cases hmoved with
    | display h => cases h <;> rfl
    | finish h => simp only [host, h.command]
    | pause h delay => simp only [host, h.branch]
    | _ => rfl
  · rintro r _ c rfl hpassing
    cases c with
    | display d =>
      cases d with
      | stepSkipped => rfl
      | _ => exact hpassing.elim
    | record | check => rfl
    | _ => exact hpassing.elim

section Drive

variable {σ α β : Type} {h : RunHost σ} {R : σ → σ → Prop} {s s' : σ}

theorem Task.Mirrors.drive {P : Effect → Prop} {S : α → β → Prop} {p : Task α} {p' : Task β}
    (hp : Mirrors P S p p') (hhost : h.OverlooksPlaces R) (hs : R s s') {d : RunDriven σ α}
    (hd : p.drive h s = some d) :
    ∃ d', p'.drive h s' = some d' ∧ S d.result d'.result ∧ R d.state d'.state ∧
      demands d'.exchanges = demands d.exchanges := by
  induction hp generalizing s s' d with
  | done hS =>
    obtain rfl := Option.some.inj hd
    exact ⟨_, rfl, hS, hs, rfl⟩
  | halted => simp [Program.drive] at hd
  | @perform c c' next next' _ hmoved _ ih =>
    obtain ⟨rest, hrest, rfl⟩ := Option.map_eq_some_iff.mp hd
    obtain ⟨rest', hrest', hS, hR, hdemands⟩ :=
      ih _ _ (hhost.agree hs hmoved) (hhost.next hs hmoved) hrest
    refine ⟨rest'.after [⟨c', (h s' c').1⟩], ?_, hS, hR, ?_⟩
    · rw [Program.drive_perform, hrest', Option.map_some]
    · simp only [Driven.after, demands_append, demands_cons, demands_nil, hmoved.demand?_eq,
        hdemands]

theorem passing_drive (hhost : h.OverlooksPlaces R) {p : Task α} (hs : R s s')
    {d : RunDriven σ α} (hd : p.drive h s = some d)
    (hpassing : ∀ e ∈ d.exchanges, e.call.IsPassing) :
    R d.state s' ∧ demands d.exchanges = [] := by
  induction p generalizing s d with
  | done a =>
    obtain rfl := Option.some.inj hd
    exact ⟨hs, rfl⟩
  | halted why => simp [Program.drive] at hd
  | perform c next ih =>
    obtain ⟨rest, hrest, rfl⟩ := Option.map_eq_some_iff.mp hd
    obtain ⟨hc, hothers⟩ := List.forall_mem_cons.mp hpassing
    have hpass : Effect.IsPassing c := hc
    obtain ⟨hR, hdemands⟩ := ih _ (hhost.passing hs hpass) hrest hothers
    have hnone : Effect.demand? c = none := by
      cases c with
      | start | ask => exact hpass.elim
      | _ => rfl
    refine ⟨hR, ?_⟩
    simp only [Driven.after, demands_append, demands_cons, demands_nil, hnone, hdemands,
      Option.toList_none, List.append_nil]

end Drive

/-! ### Steps -/

theorem of_mem_recorded {index : Nat} {asks : Prop} {es : RunTrace}
    (h : ∀ e ∈ es, e.call.IsStepWork index asks) {o : Occurrence} (ho : o ∈ recorded es) :
    o.step? = some index ∧ o ≠ .stepSkipped index none := by
  obtain ⟨e, he, hoccurrence⟩ := List.mem_filterMap.mp ho
  obtain ⟨c, reply⟩ := e
  cases c with
  | record o' =>
    obtain rfl := Option.some.inj hoccurrence
    rcases h _ he with ⟨branch, hwork⟩ | ⟨_, hpick⟩ | ⟨_, _, hask⟩
    · exact ⟨hwork.1, hwork.2.2⟩
    · cases hpick
    · cases hask
  | _ => cases hoccurrence

namespace Run

variable {σ : Type} {bounds : RunBounds} {scope scope' : RunScope} {host : RunHost σ}
  {R : σ → σ → Prop} {s s' : σ} {w w' : Workspace} {step : Step} {index : Nat} {es : RunTrace}
  {e : StepEnd}

/-- Either a step is skipped, and that is recorded and nothing else; or what is recorded is about
it, and not that it is skipped. -/
theorem StepPassed.recorded_eq (h : StepPassed bounds scope step index w es e) :
    (recorded es = [.stepSkipped index none] ∧ e = ⟨none, w⟩ ∧ ∀ x ∈ es, x.call.IsPassing) ∨
    ∀ o ∈ recorded es, o.step? = some index ∧ o ≠ .stepSkipped index none := by
  cases h with
  | @skipped checks stamp hdue =>
    have hchecks : ∀ x ∈ checks, x.call.IsPassing := by
      intro x hx
      obtain ⟨path, b, rfl⟩ := Step.isCheck_of_runs_isDue hdue x hx
      trivial
    refine .inl ⟨?_, rfl, fun x hx => ?_⟩
    · rw [recorded_append, recorded_of_runs_isDue hdue]
      rfl
    · simp only [List.mem_append, List.mem_cons, List.not_mem_nil, or_false] at hx
      rcases hx with hx | rfl | rfl
      · exact hchecks x hx
      · trivial
      · trivial
  | taken hdue htaken =>
    rw [recorded_append, recorded_of_runs_isDue hdue, List.nil_append]
    exact .inr fun o ho => of_mem_recorded (isStepWork_of_runs_takeDue htaken) ho

/-- Where a host drives a step, it skips it and notices nothing, or it does the same with the step
at another place. -/
theorem simulates_takeStep (hscope : scope.SharesSettings scope') (hhost : host.OverlooksPlaces R)
    (hs : R s s') (hw : w.Resembles w') {d : RunDriven σ StepEnd}
    (hd : (takeStep bounds scope step index w).drive host s = some d) (index' : Nat) :
    (d.result = ⟨none, w⟩ ∧ R d.state s' ∧ demands d.exchanges = [] ∧
      recorded d.exchanges = [.stepSkipped index none]) ∨
    (∀ o ∈ recorded d.exchanges, o.step? = some index ∧ o ≠ .stepSkipped index none) ∧
    ∃ d', (takeStep bounds scope' step index' w').drive host s' = some d' ∧
      StepEnd.Matches w w' index index' d.result d'.result ∧ R d.state d'.state ∧
      demands d'.exchanges = demands d.exchanges := by
  rcases (stepPassed_of_runs (Program.runs_of_drive hd)).recorded_eq with
    ⟨hrecorded, hresult, hpassing⟩ | hrecorded
  · obtain ⟨hR, hdemands⟩ := passing_drive hhost hs hd hpassing
    exact .inl ⟨hresult, hR, hdemands, hrecorded⟩
  · refine .inr ⟨hrecorded, ?_⟩
    rw [takeStep_eq, Program.drive_bind] at hd
    obtain ⟨checked, hchecked, hstep⟩ := Option.bind_eq_some_iff.mp hd
    obtain ⟨taken, htaken, rfl⟩ := Option.map_eq_some_iff.mp hstep
    have hdue : Mirrors (Effect.IsWork index none) Eq (Step.isDue step.guard scope w)
      (Step.isDue step.guard scope' w') := Step.mirrors_isDue hscope hw step.guard
    obtain ⟨checked', hchecked', heq, hR, hdemands⟩ := hdue.drive hhost hs hchecked
    cases hresult : checked.result with
    | false =>
      -- a step that is not due would have recorded that it is skipped
      rw [hresult, if_neg (by simp)] at htaken
      obtain ⟨stamp, hnoted, _⟩ := Task.runs_noting (Program.runs_of_drive htaken)
      have hmem : .stepSkipped index none ∈
          recorded (taken.after checked.exchanges).exchanges := by
        rw [Driven.after, hnoted, recorded_append]
        exact List.mem_append_right _ List.mem_cons_self
      exact absurd rfl (hrecorded _ hmem).2
    | true =>
      rw [hresult, if_pos rfl] at htaken
      obtain ⟨taken', htaken', hmatches, hR', hdemands'⟩ :=
        (mirrors_takeDue hscope bounds hw step index index').drive hhost hR htaken
      refine ⟨taken'.after checked'.exchanges, ?_, hmatches, hR', ?_⟩
      · rw [takeStep_eq, Program.drive_bind, hchecked', Option.bind_some, ← heq, hresult,
          if_pos rfl, htaken', Option.map_some]
      · simp only [Driven.after, demands_append, hdemands, hdemands']

end Run

/-! ### Steps that stay -/

def remaining (skipped : Nat → Bool) (index : Nat) (steps : List Step) : List Step :=
  ((steps.zipIdx index).filter fun (_, i) => !skipped i).map Prod.fst

/-- The index of a step among those that are not skipped. -/
def rank (skipped : Nat → Bool) (index : Nat) : Nat :=
  (List.range index).countP fun i => !skipped i

section Remaining

variable {skipped : Nat → Bool} {index : Nat} {step : Step} {steps : List Step}

theorem remaining_cons_of_skipped (h : skipped index = true) :
    remaining skipped index (step :: steps) = remaining skipped (index + 1) steps := by
  simp [remaining, List.zipIdx_cons, h]

theorem remaining_cons (h : skipped index = false) :
    remaining skipped index (step :: steps) = step :: remaining skipped (index + 1) steps := by
  simp [remaining, List.zipIdx_cons, h]

theorem rank_succ_of_skipped (h : skipped index = true) :
    rank skipped (index + 1) = rank skipped index := by
  simp [rank, List.range_succ, h]

theorem rank_succ (h : skipped index = false) :
    rank skipped (index + 1) = rank skipped index + 1 := by
  simp [rank, List.range_succ, h]

end Remaining

/-! ### Renumbered workspaces -/

namespace Workspace

/-- A workspace whose steps have got new numbers. -/
structure Renumbered (f : Nat → Nat) (w w' : Workspace) : Prop extends w.Resembles w' where
  outcomes : w'.outcomes = w.outcomes.map fun entry => (f entry.1, entry.2)
  last : w'.last = w.last.map f

theorem lastOutcome?_congr {v w : Workspace} (houtcomes : v.outcomes = w.outcomes)
    (hlast : v.last = w.last) : v.lastOutcome? = w.lastOutcome? := by
  have houtcome : v.outcome? = w.outcome? := by
    funext index
    rw [outcome?, outcome?, houtcomes]
  rw [lastOutcome?, lastOutcome?, hlast, houtcome]

variable {f : Nat → Nat} {w w' v v' : Workspace} {index : Nat}

theorem Renumbered.of_tracks (h : w.Renumbered f w') (hv : Tracks w w' v v') :
    v.Renumbered f v' where
  toSameValues := hv.toSameValues
  lastOutcome := by
    rw [lastOutcome?_congr hv.outcomes' hv.last', lastOutcome?_congr hv.outcomes hv.last,
      h.lastOutcome]
  outcomes := by rw [hv.outcomes', hv.outcomes, h.outcomes]
  last := by rw [hv.last', hv.last, h.last]

theorem Renumbered.setOutcome (h : v.Renumbered f v')
    (hwithin : ∀ entry ∈ v.outcomes, entry.1 < index ∧ f entry.1 < f index) (o : StepOutcome) :
    (v.setOutcome index o).Renumbered f (v'.setOutcome (f index) o) where
  toSameValues := ⟨h.vars, h.facts, h.choices⟩
  lastOutcome := by simp
  outcomes := by
    have hbelow' : ∀ entry ∈ v'.outcomes, entry.1 < f index := by
      rw [h.outcomes]
      intro entry hentry
      obtain ⟨own, hown, rfl⟩ := List.mem_map.mp hentry
      exact (hwithin own hown).2
    change v'.outcomes.bind (f index) o = (v.outcomes.bind index o).map _
    rw [Bindings.bind_eq_append fun entry hentry => (hwithin entry hentry).1,
      Bindings.bind_eq_append hbelow', List.map_append, h.outcomes]
    rfl
  last := rfl

theorem Renumbered.of_matches (h : w.Renumbered f w')
    (hwithin : ∀ entry ∈ w.outcomes, entry.1 < index ∧ f entry.1 < f index) {e e' : StepEnd}
    (he : StepEnd.Matches w w' index (f index) e e') : e.workspace.Renumbered f e'.workspace := by
  obtain ⟨_, v⟩ := e
  obtain ⟨_, v'⟩ := e'
  rcases he.2 with hv | ⟨hv, o⟩
  · exact h.of_tracks hv
  · refine (h.of_tracks hv).setOutcome (fun entry hentry => hwithin entry ?_) o
    exact hv.outcomes ▸ hentry

theorem of_mem_outcomes {e e' : StepEnd} {slot' : Nat}
    (he : StepEnd.Matches w w' index slot' e e') {entry : Nat × StepOutcome}
    (hentry : entry ∈ e.workspace.outcomes) : entry.1 = index ∨ entry ∈ w.outcomes := by
  obtain ⟨_, v⟩ := e
  obtain ⟨_, v'⟩ := e'
  rcases he.2 with hv | ⟨hv, o⟩
  · exact .inr (hv.outcomes ▸ hentry)
  · rcases Bindings.mem_bind hentry with rfl | hentry
    · exact .inl rfl
    · exact .inr (hv.outcomes ▸ hentry)

end Workspace

/-! ### Runs -/

namespace Run

variable {σ : Type} {bounds : RunBounds} {scope scope' : RunScope} {host : RunHost σ}
  {R : σ → σ → Prop} {s s' : σ} {w w' : Workspace} {steps : List Step} {index : Nat}
  {skipped : Nat → Bool}

theorem Passes.step?_of_mem {passages : List Passage} {last : StepEnd}
    (h : Passes bounds scope index w steps passages last) {p : Passage} (hp : p ∈ passages)
    {o : Occurrence} (ho : o ∈ recorded p.exchanges) : o.step? = some p.index := by
  rcases (stepPassed_of_runs (h.runs hp)).recorded_eq with ⟨hrecorded, _⟩ | hrecorded
  · rw [hrecorded, List.mem_singleton] at ho
    rw [ho]
    rfl
  · exact (hrecorded o ho).1

theorem exists_step?_of_mem {es : RunTrace} {last : StepEnd}
    (h : Runs (takeSteps bounds scope index w steps) es last) {o : Occurrence}
    (ho : o ∈ recorded es) : ∃ i, o.step? = some i ∧ index ≤ i := by
  obtain ⟨passages, hpasses, rfl⟩ := exists_passes_of_runs h
  obtain ⟨e, he, hoccurrence⟩ := List.mem_filterMap.mp ho
  obtain ⟨p, hp, hpe⟩ := List.mem_flatMap.mp he
  refine ⟨p.index, hpasses.step?_of_mem hp (List.mem_filterMap.mpr ⟨e, hpe, hoccurrence⟩), ?_⟩
  have hindex : p.index ∈ passages.map (·.index) := List.mem_map_of_mem hp
  rw [hpasses.indexes_eq] at hindex
  exact (List.mem_range'_1.mp hindex).1

theorem drive_takeSteps_cons (host : RunHost σ) (s : σ) (step : Step) (rest : List Step) :
    (takeSteps bounds scope index w (step :: rest)).drive host s =
      ((takeStep bounds scope step index w).drive host s).bind fun first =>
        (if first.result.failure.isSome then some ⟨first.result, first.state, []⟩
        else (takeSteps bounds scope (index + 1) first.result.workspace rest).drive host
          first.state).map (·.after first.exchanges) := by
  rw [takeSteps, Program.drive_bind]
  congr 1
  funext first
  cases first.result.failure.isSome <;> rfl

/-- Of the steps from an index on, those are skipped of which that is recorded. -/
def Tells (skipped : Nat → Bool) (index : Nat) (os : List Occurrence) : Prop :=
  ∀ i, index ≤ i → (skipped i = true ↔ .stepSkipped i none ∈ os)

section Tells

variable {os more : List Occurrence}

theorem Tells.of_skipped (h : Tells skipped index (os ++ more))
    (hos : os = [.stepSkipped index none]) :
    skipped index = true ∧ Tells skipped (index + 1) more := by
  subst hos
  refine ⟨(h index (Nat.le_refl _)).mpr (by simp), fun i hi => ?_⟩
  have hne : i ≠ index := by omega
  rw [h i (by omega)]
  simp [hne]

theorem Tells.of_taken (h : Tells skipped index (os ++ more))
    (hos : ∀ o ∈ os, o.step? = some index ∧ o ≠ .stepSkipped index none)
    (hmore : ∀ o ∈ more, ∃ i, o.step? = some i ∧ index + 1 ≤ i) :
    skipped index = false ∧ Tells skipped (index + 1) more := by
  have hnone : ∀ i, .stepSkipped i none ∉ os := by
    intro i hi
    obtain ⟨hindex, hne⟩ := hos _ hi
    obtain rfl := Option.some.inj hindex
    exact hne rfl
  constructor
  · rw [← Bool.not_eq_true, h index (Nat.le_refl _), List.mem_append]
    rintro (hmem | hmem)
    · exact hnone index hmem
    · obtain ⟨i, hi, hle⟩ := hmore _ hmem
      obtain rfl := Option.some.inj hi
      omega
  · intro i hi
    rw [h i (by omega), List.mem_append]
    exact or_iff_right (hnone i)

end Tells

/-- All outcomes are of steps before an index, and stay so when the steps are renumbered. -/
def IsWithin (skipped : Nat → Bool) (index : Nat) (w : Workspace) : Prop :=
  ∀ entry ∈ w.outcomes, entry.1 < index ∧ rank skipped entry.1 < rank skipped index

theorem IsWithin.of_skipped (h : IsWithin skipped index w) (hskip : skipped index = true) :
    IsWithin skipped (index + 1) w := by
  intro entry hentry
  have hbefore := h entry hentry
  rw [rank_succ_of_skipped hskip]
  omega

theorem IsWithin.of_matches (h : IsWithin skipped index w) (hstays : skipped index = false)
    {e e' : StepEnd} {slot' : Nat} (he : StepEnd.Matches w w' index slot' e e') :
    IsWithin skipped (index + 1) e.workspace := by
  intro entry hentry
  rw [rank_succ hstays]
  rcases Workspace.of_mem_outcomes he hentry with heq | hentry
  · rw [heq]
    omega
  · have hbefore := h entry hentry
    omega

/-- Where a host drives steps in turn, it drives those of them that it does not skip in the same way
from any place. -/
theorem simulates_takeSteps (hscope : scope.SharesSettings scope')
    (hhost : host.OverlooksPlaces R) (hs : R s s') (hw : w.Renumbered (rank skipped) w')
    (hwithin : IsWithin skipped index w) {d : RunDriven σ StepEnd}
    (hd : (takeSteps bounds scope index w steps).drive host s = some d)
    (htells : Tells skipped index (recorded d.exchanges)) :
    ∃ d', (takeSteps bounds scope' (rank skipped index) w'
        (remaining skipped index steps)).drive host s' = some d' ∧
      d'.result.failure.isSome = d.result.failure.isSome ∧
      d.result.workspace.Renumbered (rank skipped) d'.result.workspace ∧
      demands d'.exchanges = demands d.exchanges := by
  induction steps generalizing index w w' s s' d with
  | nil =>
    obtain rfl := Option.some.inj hd
    exact ⟨_, rfl, rfl, hw, rfl⟩
  | cons step rest ih =>
    rw [drive_takeSteps_cons] at hd
    obtain ⟨first, hfirst, hrest⟩ := Option.bind_eq_some_iff.mp hd
    obtain ⟨more, hmore, rfl⟩ := Option.map_eq_some_iff.mp hrest
    -- what is recorded after the step is about later steps
    have hlater : ∀ o ∈ recorded more.exchanges, ∃ i, o.step? = some i ∧ index + 1 ≤ i := by
      intro o ho
      split at hmore
      · obtain rfl := Option.some.inj hmore
        simp at ho
      · exact exists_step?_of_mem (Program.runs_of_drive hmore) ho
    have hsplit : recorded (more.after first.exchanges).exchanges =
        recorded first.exchanges ++ recorded more.exchanges := recorded_append ..
    rw [hsplit] at htells
    rcases simulates_takeStep hscope hhost hs hw.toResembles hfirst (rank skipped index) with
      ⟨hresult, hR, hdemands, hrecorded⟩ | ⟨hrecorded, first', hfirst', hmatches, hR, hdemands⟩
    · obtain ⟨hskip, htells⟩ := htells.of_skipped hrecorded
      rw [hresult, if_neg (by simp)] at hmore
      obtain ⟨d', hd', hfailure, hrenumbered, hsame⟩ :=
        ih hR hw (hwithin.of_skipped hskip) hmore htells
      rw [remaining_cons_of_skipped hskip, ← rank_succ_of_skipped hskip]
      refine ⟨d', hd', hfailure, hrenumbered, ?_⟩
      simp only [Driven.after, demands_append, hdemands, List.nil_append, hsame]
    · obtain ⟨hstays, htells⟩ := htells.of_taken hrecorded hlater
      have hrenumbered := hw.of_matches hwithin hmatches
      rw [remaining_cons hstays, drive_takeSteps_cons, hfirst', Option.bind_some, hmatches.1]
      cases hfailure : first.result.failure.isSome with
      | true =>
        rw [hfailure, if_pos rfl] at hmore
        obtain rfl := Option.some.inj hmore
        refine ⟨_, rfl, hmatches.1, hrenumbered, ?_⟩
        simp only [Driven.after, List.append_nil, hdemands]
      | false =>
        rw [hfailure, if_neg (by simp)] at hmore
        obtain ⟨d', hd', hsuccess, hall, hsame⟩ :=
          ih hR hrenumbered (hwithin.of_matches hstays hmatches) hmore htells
        rw [if_neg (by simp), ← rank_succ hstays]
        refine ⟨d'.after first'.exchanges, by rw [hd', Option.map_some], hsuccess, hall, ?_⟩
        simp only [Driven.after, demands_append, hdemands, hsame]

def isSkipped (r : Run) (index : Nat) : Bool := r.occurrences.contains (.stepSkipped index none)

end Run

namespace Workflow

variable {σ : Type} {w w' : Workflow} {host : RunHost σ} {options : RunOptions}
  {current : FilePath} {s : σ} {d : RunDriven σ Run}

theorem Concludes.demands_eq {steps : RunDriven σ StepEnd} (h : w.Concludes host s steps d) :
    demands d.exchanges = demands steps.exchanges := by
  obtain ⟨front, back, hexchanges, hframe, _, _⟩ := h.exchanges
  rw [hexchanges]
  exact filterMap_framed hframe _ fun e => Effect.demand?_of_isFrame

theorem Concludes.isSkipped_iff {steps : RunDriven σ StepEnd} (h : w.Concludes host s steps d)
    (index : Nat) :
    d.result.isSkipped index = true ↔ .stepSkipped index none ∈ recorded steps.exchanges := by
  obtain ⟨front, back, hexchanges, _, hfront, hback⟩ := h.exchanges
  have hlast : (lastEvent host s steps).occurrence ≠ .stepSkipped index none := by
    change Run.closing _ _ ≠ _
    cases steps.result.failure <;> nofun
  rw [Run.isSkipped, List.contains_iff_mem, ← h.recorded_eq, hexchanges, recorded_append,
    recorded_append, hfront, hback]
  simp [hlast.symm]

/-- Without the steps that were skipped in a run, a workflow runs just as well on a host that does
not look at the places of steps: it makes the same demands, comes to the same success or failure, and
leaves the same variables, facts and choices, and the outcomes of the steps, the last one among
them, under the new numbers of the steps. -/
theorem skipped_steps_removed (hsettings : w.SharesSettings w')
    (hhost : host.IgnoresPlaces s) (hd : w.run host options current s = some d)
    (hsteps : w'.steps = remaining d.result.isSkipped 0 w.steps) :
    ∃ d', w'.run host options current s = some d' ∧
      demands d'.exchanges = demands d.exchanges ∧
      d'.result.failure.isSome = d.result.failure.isSome ∧
      d.result.workspace.Renumbered (rank d.result.isSkipped) d'.result.workspace := by
  obtain ⟨R, hR, hs⟩ := hhost
  obtain ⟨conclude, hrun, hconclude⟩ := w.run_eq host options current s
  obtain ⟨conclude', hrun', hconclude'⟩ := w'.run_eq host options current s
  obtain ⟨steps, hcourse, rfl⟩ := Option.map_eq_some_iff.mp (hrun.symm.trans hd)
  have hover := hconclude steps
  have hbeginning : R (w.beginning host s) (w'.beginning host s) :=
    hR.next (hR.next hs .clock) (.record _ _)
  obtain ⟨houtcomes, hlast⟩ := Run.outcomes_initialWorkspace options.given
  have hinitial : (Run.initialWorkspace options.given).Renumbered
      (rank (conclude steps).result.isSkipped) (Run.initialWorkspace options.given) :=
    ⟨Run.resembles_refl _, by rw [houtcomes]; rfl, by rw [hlast]; rfl⟩
  have hwithin : Run.IsWithin (conclude steps).result.isSkipped 0
      (Run.initialWorkspace options.given) := by simp [Run.IsWithin, houtcomes]
  obtain ⟨steps', hcourse', hfailure, hrenumbered, hdemands⟩ := Run.simulates_takeSteps
    (hsettings.runScope options current) hR hbeginning hinitial hwithin hcourse
    fun i _ => hover.isSkipped_iff i
  have hrun : w'.course host options current s = some steps' := by
    rw [course, hsteps]
    exact hcourse'
  have hover' := hconclude' steps'
  refine ⟨conclude' steps', by rw [hrun', hrun]; rfl, ?_, ?_, ?_⟩
  · rw [hover'.demands_eq, hover.demands_eq, hdemands]
  · rw [hover'.failure, hover.failure, hfailure]
  · rw [hover'.workspace, hover.workspace]
    exact hrenumbered

/-- The first of two steps waits for a variable that nobody sets. -/
def waiting : Workflow :=
  ⟨none, none, none, [],
    [⟨some (.varExists "ready"), .action (.run ⟨"first", none, .never, none, false, [], []⟩)⟩,
      ⟨none, .action (.run ⟨"second", none, .never, none, false, [], []⟩)⟩], ⟨none, none, []⟩⟩

def unwaiting : Workflow := { waiting with steps := waiting.steps.drop 1 }

theorem skipped_steps_removed_waiting : ∃ d d' : RunDriven Rehearsal Run,
    waiting.run Rehearsal.host ⟨[], .standard, ⟨1, 1⟩⟩ "/" quiet = some d ∧
    d.result.isSkipped 0 = true ∧
    unwaiting.steps = remaining d.result.isSkipped 0 waiting.steps ∧
    unwaiting.run Rehearsal.host ⟨[], .standard, ⟨1, 1⟩⟩ "/" quiet = some d' ∧
    demands d'.exchanges = demands d.exchanges ∧
    d'.result.failure.isSome = d.result.failure.isSome ∧
    d.result.workspace.Renumbered (rank d.result.isSkipped) d'.result.workspace := by
  obtain ⟨d, hd, hfirst, hsecond⟩ : ∃ d : RunDriven Rehearsal Run,
      waiting.run Rehearsal.host ⟨[], .standard, ⟨1, 1⟩⟩ "/" quiet = some d ∧
      d.result.isSkipped 0 = true ∧ d.result.isSkipped 1 = false := ⟨_, rfl, rfl, rfl⟩
  have hsettings : waiting.SharesSettings unwaiting := ⟨rfl, rfl, rfl⟩
  have hsteps : unwaiting.steps = remaining d.result.isSkipped 0 waiting.steps := by
    rw [waiting, remaining_cons_of_skipped hfirst, remaining_cons hsecond]
    rfl
  obtain ⟨d', hd', hdemands, hfailure, hrenumbered⟩ :=
    skipped_steps_removed hsettings (Rehearsal.ignoresPlaces quiet) hd hsteps
  exact ⟨d, d', hd, hfirst, hsteps, hd', hdemands, hfailure, hrenumbered⟩

end Workflow

end Runbook
