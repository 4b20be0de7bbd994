import Mathlib.Data.List.Forall2
import Runbook.Workflow.Reader

/-!
Workflows that documents write. Main statement: such a workflow has steps, and the branches of its
parallel steps ask nobody.
-/

namespace Runbook

namespace Checked

variable {α β : Type}

theorem value_bind {c : Checked α} {f : α → Checked β} {b : β} :
    (c >>= f).value = some b ↔ ∃ a, c.value = some a ∧ (f a).value = some b := by
  change (andThen c f).value = some b ↔ _
  rw [andThen]
  cases hc : c.value with
  | none => simp
  | some a => simp

theorem value_found_bind (a : α) (f : α → Checked β) : (found a >>= f).value = (f a).value := rfl

/-- A part that is missing was noted, and the check goes on without it. -/
theorem value_noted_bind (fault : Fault) (location : Location) (f : Option α → Checked β) :
    ((issue fault location).optional >>= f).value = (f none).value := rfl

@[simp] theorem value_pure {a b : α} : (pure a : Checked α).value = some b ↔ a = b := by
  change some a = some b ↔ _
  exact Option.some_inj

@[simp] theorem value_issue (fault : Fault) (location : Location) :
    (issue fault location : Checked α).value = none := rfl

@[simp] theorem value_optional (c : Checked α) : c.optional.value = some c.value := rfl

theorem value_all {cs : List (Checked α)} {as : List α} :
    (all cs).value = some as ↔ List.Forall₂ (fun c a => c.value = some a) cs as := by
  induction cs generalizing as with
  | nil => simp [all, eq_comm]
  | cons c rest ih =>
    simp only [all]
    constructor
    · intro h
      split at h
      · rename_i a others ha hothers
        obtain rfl := Option.some.inj h
        exact .cons ha (ih.mp hothers)
      · simp at h
    · intro h
      cases h with
      | cons ha hothers => simp [ha, ih.mpr hothers]

theorem forall₂_of_mapIdx {ι : Type} {f : Nat → ι → Checked α} {P : ι → α → Prop}
    (hf : ∀ i d a, (f i d).value = some a → P d a) {items : List ι} {as : List α}
    (h : List.Forall₂ (fun c a => c.value = some a) (items.mapIdx f) as) :
    List.Forall₂ P items as := by
  obtain ⟨hlen, hget⟩ := List.forall₂_iff_get.mp h
  refine List.forall₂_iff_get.mpr ⟨by simpa using hlen, fun i hi hi' => ?_⟩
  have hfound := hget i (by simpa using hi) hi'
  simp only [List.get_eq_getElem, List.getElem_mapIdx] at hfound
  exact hf i _ _ hfound

/-- Whatever a sequence of checks finds is found by one of them. -/
theorem exists_of_mem {ι : Type} {f : Nat → ι → Checked α} {items : List ι} {as : List α}
    (h : List.Forall₂ (fun c a => c.value = some a) (items.mapIdx f) as) {a : α} (ha : a ∈ as) :
    ∃ i item, (f i item).value = some a := by
  obtain ⟨i, hi, rfl⟩ := List.getElem_of_mem ha
  obtain ⟨hlen, hget⟩ := List.forall₂_iff_get.mp h
  have hfound := hget i (by omega) hi
  simp only [List.get_eq_getElem, List.getElem_mapIdx] at hfound
  exact ⟨i, _, hfound⟩

theorem ne_nil_of_forall₂ {ι : Type} {f : Nat → ι → Checked α} {items : List ι} {as : List α}
    (h : List.Forall₂ (fun c a => c.value = some a) (items.mapIdx f) as) (hne : items ≠ []) :
    as ≠ [] := by
  rintro rfl
  have hlen := h.length_eq
  exact hne (by simpa using hlen)

theorem result_eq_ok {c : Checked α} {a : α} :
    c.result = .ok a ↔ c.value = some a ∧ c.issues = [] := by
  obtain ⟨value, issues⟩ := c
  cases value with
  | none => simp [result]
  | some b => cases issues <;> simp [result]

end Checked

theorem Document.eq_some_of_present {d : Option Document} {e : Document}
    (h : Document.present d = some e) : d = some e := by
  unfold Document.present at h
  split at h
  · simp at h
  · exact h

/-! ### Parts of steps -/

structure RunStep.Found (fields : Fields) (location : Location) (step : RunStep) : Prop where
  command : (commandText (fields.get? "run") "run" location).value = some step.command
  shell : (shellOf (fields.get? "shell") location).value = some step.shell
  fallbacks : step.fallbacks = [] ∨ ∃ d, (fallbacksOf location d).value = some step.fallbacks
  captures : (capturesOf (fields.get? "captures") location).value = some step.captures

theorem RunStep.found_of_check {fields : Fields} {location : Location} {step : RunStep}
    (h : (check fields location).value = some step) : step.Found fields location := by
  obtain ⟨command, hcommand, htimeout⟩ := Checked.value_bind.mp h
  obtain ⟨timeout, _, hretry⟩ := Checked.value_bind.mp htimeout
  obtain ⟨retry, _, hrest⟩ := Checked.value_bind.mp hretry
  obtain ⟨shell, hshell, hcontinue⟩ := Checked.value_bind.mp hrest
  obtain ⟨continueOnError, _, hfallbacks⟩ := Checked.value_bind.mp hcontinue
  have captured : ∀ fallbacks : List Fallback, (do
      let captures ← capturesOf (fields.get? "captures") location
      return { command, timeout, retry, shell, continueOnError, fallbacks, captures } :
        Checked RunStep).value = some step → ∃ captures,
          (capturesOf (fields.get? "captures") location).value = some captures ∧
          step = { command, timeout, retry, shell, continueOnError, fallbacks, captures } := by
    intro fallbacks hlast
    obtain ⟨captures, hcaptures, hstep⟩ := Checked.value_bind.mp hlast
    exact ⟨captures, hcaptures, (Checked.value_pure.mp hstep).symm⟩
  dsimp only at hfallbacks
  split at hfallbacks
  · obtain ⟨fallbacks, hnone, hlast⟩ := Checked.value_bind.mp hfallbacks
    obtain ⟨captures, hcaptures, rfl⟩ := captured fallbacks hlast
    exact ⟨hcommand, hshell, .inl (Option.some.inj hnone).symm, hcaptures⟩
  · rename_i d _
    obtain ⟨fallbacks, hfound, hlast⟩ := Checked.value_bind.mp hfallbacks
    obtain ⟨captures, hcaptures, rfl⟩ := captured fallbacks hlast
    exact ⟨hcommand, hshell, .inr ⟨d, hfound⟩, hcaptures⟩

theorem Checked.exists_of_required {α : Type} {o : Option String} {fault : Fault}
    {location : Location} {f : Option String → Checked α} {a : α}
    (hnone : ∀ b, (f none).value ≠ some b)
    (h : (match o with
      | some text => found (some text) >>= f
      | none => (issue fault location).optional >>= f).value = some a) :
    ∃ text, o = some text ∧ (f (some text)).value = some a := by
  cases o with
  | some text => exact ⟨text, rfl, h⟩
  | none => exact absurd h (hnone a)

structure ChooseStep.Found (d : Option Document) (location : Location) (step : ChooseStep) :
    Prop where
  message : filledText? (d.bind (·.field? "message")) = some step.message
  options : (optionsOf (d.bind (·.field? "options")) location).value = some step.options

theorem ChooseStep.found_of_check {d : Option Document} {location : Location} {step : ChooseStep}
    (h : (check d location).value = some step) : step.Found d location := by
  unfold check at h
  split at h
  · rename_i fields
    dsimp only at h
    obtain ⟨message, hmessage, hrest⟩ := Checked.exists_of_required (fun step hnone => by
      obtain ⟨_, _, hname⟩ := Checked.value_bind.mp hnone
      obtain ⟨_, _, hstep⟩ := Checked.value_bind.mp hname
      simp [Checked.ofOption] at hstep) h
    obtain ⟨options, hoptions, hname⟩ := Checked.value_bind.mp hrest
    obtain ⟨storeAs, _, hstep⟩ := Checked.value_bind.mp hname
    rw [Checked.value_optional, Option.some.injEq] at hoptions
    subst hoptions
    split at hstep
    · rename_i hsome hoptions
      obtain rfl := Checked.value_pure.mp hstep
      obtain rfl := Option.some.inj hsome
      exact ⟨hmessage, hoptions⟩
    · simp [Checked.ofOption] at hstep
  · simp at h

inductive Branch.Found (fields : Fields) (location : Location) : String → Action → Prop where
  | run {step} (h : (RunStep.check fields location).value = some step) :
    Found fields location "run" (.run step)
  | fail {message} (h : (failMessage (fields.get? "fail") location).value = some message) :
    Found fields location "fail" (.fail message)

theorem Branch.found_of_check {step branch : Nat} {d : Document} {b : Branch}
    (h : (check step branch d).value = some b) : ∃ fields kind, d = .object fields ∧
      (kindOf fields (.branch step branch)).value = some kind ∧
      (guardOf fields (.branch step branch)).value = some b.guard ∧
      Branch.Found fields (.branch step branch) kind b.action := by
  cases d with
  | object fields =>
    obtain ⟨kind, hkind, hguarded⟩ := Checked.value_bind.mp h
    obtain ⟨guard, hguard, haction⟩ := Checked.value_bind.mp hguarded
    split at haction
    · rename_i hrun
      obtain ⟨run, hfound, hb⟩ := Checked.value_bind.mp haction
      obtain rfl := Checked.value_pure.mp hb
      exact ⟨fields, kind, rfl, hkind, hguard, hrun ▸ .run hfound⟩
    split at haction
    · rename_i hfail
      obtain ⟨message, hfound, hb⟩ := Checked.value_bind.mp haction
      obtain rfl := Checked.value_pure.mp hb
      exact ⟨fields, kind, rfl, hkind, hguard, hfail ▸ .fail hfound⟩
    · split at haction <;> simp at haction
  | _ => simp [check] at h

inductive Step.Found (fields : Fields) (index : Nat) : String → StepBody → Prop where
  | run {step} (h : (RunStep.check fields (.step index)).value = some step) :
    Found fields index "run" (.action (.run step))
  | choose {step} (h : (ChooseStep.check (fields.get? "choose") (.step index)).value = some step) :
    Found fields index "choose" (.action (.choose step))
  | prompt {step} (h : (PromptStep.check (fields.get? "prompt") (.step index)).value = some step) :
    Found fields index "prompt" (.action (.prompt step))
  | parallel {branches} (h : (branchesOf (fields.get? "parallel") index).value = some branches) :
    Found fields index "parallel" (.parallel branches)
  | fail {message} (h : (failMessage (fields.get? "fail") (.step index)).value = some message) :
    Found fields index "fail" (.action (.fail message))

theorem mem_stepKinds_of_kindOf {fields : Fields} {location : Location} {kind : String}
    (h : (kindOf fields location).value = some kind) :
    kind ∈ stepKinds ∧ fields.has kind = true := by
  unfold kindOf at h
  split at h
  · rename_i only honly
    obtain rfl : only = kind := by simpa using h
    exact List.mem_filter.mp (honly ▸ List.mem_singleton_self only)
  · simp at h
  · simp at h

theorem Step.found_of_check {index : Nat} {d : Document} {step : Step}
    (h : (check index d).value = some step) : ∃ fields kind, d = .object fields ∧
      (kindOf fields (.step index)).value = some kind ∧
      (guardOf fields (.step index)).value = some step.guard ∧
      Step.Found fields index kind step.body := by
  cases d with
  | object fields =>
    obtain ⟨kind, hkind, hguarded⟩ := Checked.value_bind.mp h
    obtain ⟨guard, hguard, hbody⟩ := Checked.value_bind.mp hguarded
    split at hbody
    · rename_i hrun
      obtain ⟨run, hfound, hstep⟩ := Checked.value_bind.mp hbody
      obtain rfl := Checked.value_pure.mp hstep
      exact ⟨fields, kind, rfl, hkind, hguard, hrun ▸ .run hfound⟩
    split at hbody
    · rename_i hchoose
      obtain ⟨choose, hfound, hstep⟩ := Checked.value_bind.mp hbody
      obtain rfl := Checked.value_pure.mp hstep
      exact ⟨fields, kind, rfl, hkind, hguard, hchoose ▸ .choose hfound⟩
    split at hbody
    · rename_i hprompt
      obtain ⟨prompt, hfound, hstep⟩ := Checked.value_bind.mp hbody
      obtain rfl := Checked.value_pure.mp hstep
      exact ⟨fields, kind, rfl, hkind, hguard, hprompt ▸ .prompt hfound⟩
    split at hbody
    · rename_i hparallel
      obtain ⟨branches, hfound, hstep⟩ := Checked.value_bind.mp hbody
      obtain rfl := Checked.value_pure.mp hstep
      exact ⟨fields, kind, rfl, hkind, hguard, hparallel ▸ .parallel hfound⟩
    · rename_i hrun hchoose hprompt hparallel
      obtain ⟨message, hfound, hstep⟩ := Checked.value_bind.mp hbody
      obtain rfl := Checked.value_pure.mp hstep
      -- of the kinds that there are, one is left
      obtain rfl : kind = "fail" := by
        simpa [stepKinds, hrun, hchoose, hprompt, hparallel] using
          (mem_stepKinds_of_kindOf hkind).1
      exact ⟨fields, "fail", rfl, hkind, hguard, .fail hfound⟩
  | _ => simp [check] at h

/-! ### Workflows that can be run -/

/-- A branch that asks nobody: it runs a command or stops the workflow. -/
def Branch.IsUnattended (b : Branch) : Prop :=
  (∃ step, b.action = .run step) ∨ ∃ message, b.action = .fail message

/-- All branches of a step ask nobody. -/
def Step.IsWellFormed (step : Step) : Prop :=
  ∀ branches, step.body = .parallel branches → ∀ b ∈ branches, b.IsUnattended

theorem Branch.isUnattended_of_check {step branch : Nat} {d : Document} {b : Branch}
    (h : (Branch.check step branch d).value = some b) : b.IsUnattended := by
  obtain ⟨fields, kind, rfl, _, _, hfound⟩ := found_of_check h
  unfold IsUnattended
  generalize b.action = action at hfound ⊢
  cases hfound with
  | run _ => exact .inl ⟨_, rfl⟩
  | fail _ => exact .inr ⟨_, rfl⟩

theorem isUnattended_of_branchesOf {d : Option Document} {index : Nat} {branches : List Branch}
    (h : (branchesOf d index).value = some branches) : ∀ b ∈ branches, b.IsUnattended := by
  unfold branchesOf at h
  split at h
  · simp at h
  · intro b hb
    obtain ⟨i, item, hcheck⟩ := Checked.exists_of_mem (Checked.value_all.mp h) hb
    exact Branch.isUnattended_of_check hcheck
  · simp at h

theorem Step.isWellFormed_of_check {index : Nat} {d : Document} {step : Step}
    (h : (Step.check index d).value = some step) : step.IsWellFormed := by
  obtain ⟨fields, kind, rfl, _, _, hfound⟩ := found_of_check h
  unfold IsWellFormed
  generalize step.body = body at hfound ⊢
  cases hfound with
  | parallel hbranches =>
    intro branches hparallel
    obtain rfl := StepBody.parallel.inj hparallel
    exact isUnattended_of_branchesOf hbranches
  | _ => simp

namespace Workflow

/-- A document writes the workflow, wherever that comes from. -/
def IsAccepted (w : Workflow) : Prop :=
  ∃ d r, ofDocument d = .ok r ∧ { r with source := w.source } = w

theorem IsAccepted.withSource {w : Workflow} (h : w.IsAccepted) (source : WorkflowSource) :
    { w with source }.IsAccepted := by
  obtain ⟨d, r, hr, hw⟩ := h
  exact ⟨d, r, hr, by rw [← hw]⟩

/-- What is read from a text is what its document writes, with the lines of the steps. -/
theorem exists_of_read {format : FileFormat} {content : String} {w : Workflow}
    (h : read format content = .ok w) : ∃ d r, readDocument format content = .ok d ∧
      ofDocument d = .ok r ∧
      { r with source := { r.source with stepLines := stepLines format content } } = w := by
  unfold read at h
  cases hd : readDocument format content with
  | error e => simp [hd, bind, Except.bind] at h
  | ok d =>
    cases hr : ofDocument d with
    | error e => simp [hd, hr, bind, Except.bind] at h
    | ok r =>
      simp only [hd, hr, bind, Except.bind, pure, Except.pure, Except.ok.injEq] at h
      exact ⟨d, r, rfl, hr, h⟩

theorem isAccepted_of_read {format : FileFormat} {content : String} {w : Workflow}
    (h : read format content = .ok w) : w.IsAccepted := by
  obtain ⟨d, r, -, hr, rfl⟩ := exists_of_read h
  exact ⟨d, r, hr, rfl⟩

theorem isAccepted_of_readFrom {format : FileFormat} {path resolved : FilePath} {content : String}
    {w : Workflow} (h : readFrom format path resolved content = .ok w) : w.IsAccepted := by
  unfold readFrom at h
  cases hr : read format content with
  | error e => simp [hr, bind, Except.bind] at h
  | ok r =>
    simp only [hr, bind, Except.bind, pure, Except.pure, Except.ok.injEq] at h
    subst h
    exact (isAccepted_of_read hr).withSource _

structure Found (fields : Fields) (w : Workflow) : Prop where
  shell : (RunStep.shellOf (fields.get? "shell") .root).value = some w.shell
  profiles : (profilesOf (fields.get? "profiles")).value = some w.profiles
  steps : (stepsOf (fields.get? "steps")).value = some w.steps

theorem found_of_check {d : Document} {w : Workflow} (h : (check d).value = some w) :
    ∃ fields, d = .object fields ∧ w.Found fields := by
  cases d with
  | object fields =>
    obtain ⟨name, _, hbase⟩ := Checked.value_bind.mp h
    obtain ⟨baseDir, _, hrest⟩ := Checked.value_bind.mp hbase
    obtain ⟨shell, hshell, hrest⟩ := Checked.value_bind.mp hrest
    obtain ⟨profiles, hprofiles, hrest⟩ := Checked.value_bind.mp hrest
    obtain ⟨steps, hsteps, hw⟩ := Checked.value_bind.mp hrest
    rw [Checked.value_optional, Option.some.injEq] at hprofiles hsteps
    subst hprofiles hsteps
    split at hw
    · rename_i profiles steps hprofiles hsteps
      obtain rfl := Checked.value_pure.mp hw
      exact ⟨fields, rfl, hshell, hprofiles, hsteps⟩
    · simp [Checked.ofOption] at hw
  | _ => simp [check] at h

theorem items_of_stepsOf {d : Option Document} {steps : List Step}
    (h : (stepsOf d).value = some steps) : ∃ items, items ≠ [] ∧ d = some (.list items) ∧
      List.Forall₂ (fun c s => Checked.value c = some s) (items.mapIdx Step.check) steps := by
  unfold stepsOf at h
  split at h
  · simp at h
  · simp at h
  · rename_i items hne hitems
    exact ⟨items, hne, Document.eq_some_of_present hitems, Checked.value_all.mp h⟩
  · simp at h

theorem steps_of_check {d : Document} {w : Workflow} (h : (check d).value = some w) :
    ∃ items, items ≠ [] ∧ d.field? "steps" = some (.list items) ∧
      List.Forall₂ (fun c s => Checked.value c = some s) (items.mapIdx Step.check) w.steps := by
  obtain ⟨fields, rfl, hfound⟩ := found_of_check h
  exact items_of_stepsOf hfound.steps

theorem check_of_ofDocument {d : Document} {w : Workflow} (h : ofDocument d = .ok w) :
    (check (Repair.document d)).value = some w ∧ (check (Repair.document d)).issues = [] := by
  unfold ofDocument at h
  cases hr : (check (Repair.document d)).result with
  | error issues => simp [hr, Except.mapError] at h
  | ok r =>
    simp only [hr, Except.mapError, Except.ok.injEq] at h
    subst h
    exact Checked.result_eq_ok.mp hr

theorem IsAccepted.steps_checked {w : Workflow} (h : w.IsAccepted) : ∃ items, items ≠ [] ∧
    List.Forall₂ (fun c s => Checked.value c = some s) (items.mapIdx Step.check) w.steps := by
  obtain ⟨d, r, hr, hw⟩ := h
  obtain ⟨items, hne, _, hall⟩ := steps_of_check (check_of_ofDocument hr).1
  exact ⟨items, hne, by rwa [← hw]⟩

theorem IsAccepted.steps_ne_nil {w : Workflow} (h : w.IsAccepted) : w.steps ≠ [] := by
  obtain ⟨items, hne, hall⟩ := h.steps_checked
  intro hnil
  have hlen := hall.length_eq
  simp [hnil, hne] at hlen

theorem IsAccepted.isWellFormed {w : Workflow} (h : w.IsAccepted) :
    ∀ step ∈ w.steps, step.IsWellFormed := by
  obtain ⟨items, _, hall⟩ := h.steps_checked
  intro step hstep
  obtain ⟨i, item, hcheck⟩ := Checked.exists_of_mem hall hstep
  exact Step.isWellFormed_of_check hcheck

end Workflow

end Runbook
