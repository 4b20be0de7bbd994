import Runbook.Proofs.Acceptance

/-!
Documents that are no workflows. Main statements: none is refused without an issue, and the issues
of a step are at that step or at one of its branches.
-/

namespace Runbook

namespace Checked

variable {α β : Type} {places : Location → Prop} {location : Location}

/-- All issues of a check are at some places. -/
def Located (places : Location → Prop) (c : Checked α) : Prop :=
  ∀ issue ∈ c.issues, places issue.location

theorem located_ofOption (a : Option α) : (ofOption a).Located places := fun _ h => by
  simp [ofOption] at h

theorem Located.bind {c : Checked α} {f : α → Checked β} (hc : c.Located places)
    (hf : ∀ a, (f a).Located places) : (c >>= f).Located places := by
  intro met hmet
  change met ∈ (andThen c f).issues at hmet
  unfold andThen at hmet
  cases hvalue : c.value with
  | none =>
    simp only [hvalue] at hmet
    exact hc met hmet
  | some a =>
    simp only [hvalue] at hmet
    exact (List.mem_append.mp hmet).elim (hc met) (hf a met)

/-- A check that finds nothing has met an issue, and its issues are all at some places. -/
structure Reports (places : Location → Prop) (c : Checked α) : Prop where
  explained : c.value = none → c.issues ≠ []
  located : c.Located places

theorem reports_found (a : α) : (found a).Reports places :=
  ⟨fun h => by simp at h, fun _ h => by simp at h⟩

theorem reports_pure (a : α) : (pure a : Checked α).Reports places := reports_found a

theorem reports_issue (h : places location) (fault : Fault) :
    (issue fault location : Checked α).Reports places :=
  ⟨fun _ => by simp [issue], fun met hmet => by
    obtain rfl : met = ⟨fault, location⟩ := by simpa [issue] using hmet
    exact h⟩

theorem Reports.optional {c : Checked α} (h : c.Reports places) : c.optional.Reports places :=
  ⟨fun hnone => by simp at hnone, h.located⟩

theorem reports_noted (h : places location) (fault : Fault) :
    (issue fault location : Checked α).optional.Reports places :=
  (reports_issue h fault).optional

theorem Reports.mono {c : Checked α} (h : c.Reports places) {others : Location → Prop}
    (hplaces : ∀ l, places l → others l) : c.Reports others :=
  ⟨h.explained, fun issue hissue => hplaces _ (h.located issue hissue)⟩

theorem Reports.bind {c : Checked α} {f : α → Checked β} (hc : c.Reports places)
    (hf : ∀ a, (f a).Reports places) : (c >>= f).Reports places := by
  constructor
  · intro h
    change (andThen c f).value = none at h
    change (andThen c f).issues ≠ []
    unfold andThen at h ⊢
    cases hvalue : c.value with
    | none => simpa [hvalue] using hc.explained hvalue
    | some a =>
      simp only [hvalue] at h ⊢
      intro hnil
      exact (hf a).explained h (List.append_eq_nil_iff.mp hnil).2
  · exact hc.located.bind fun a => (hf a).located

/-- A part that later ones do not wait for: if it is missing, that was an issue. -/
structure ReportsPart (places : Location → Prop) (c : Checked (Option α)) : Prop where
  value_ne_none : c.value ≠ none
  explained : c.value = some none → c.issues ≠ []
  located : c.Located places

theorem reportsPart_found (a : α) : (found (some a)).ReportsPart places :=
  ⟨by simp, fun h => by simp at h, fun _ h => by simp at h⟩

theorem Reports.part {c : Checked α} (h : c.Reports places) : c.optional.ReportsPart places :=
  ⟨by simp, fun hnone => h.explained (by simpa using hnone), h.located⟩

/-- What is built of parts may find nothing where a part is missing. -/
theorem ReportsPart.bind {c : Checked (Option α)} {f : Option α → Checked β}
    (hc : c.ReportsPart places) (hf : ∀ a, (f (some a)).Reports places)
    (hnone : (f none).Located places) : (c >>= f).Reports places := by
  constructor
  · intro h
    change (andThen c f).value = none at h
    change (andThen c f).issues ≠ []
    unfold andThen at h ⊢
    cases hfound : c.value with
    | none => exact absurd hfound hc.value_ne_none
    | some found =>
      simp only [hfound] at h ⊢
      intro hnil
      obtain ⟨hissues, hrest⟩ := List.append_eq_nil_iff.mp hnil
      cases found with
      | none => exact hc.explained hfound hissues
      | some a => exact (hf a).explained h hrest
  · refine hc.located.bind fun found => ?_
    cases found with
    | none => exact hnone
    | some a => exact (hf a).located

theorem reports_all {cs : List (Checked α)} (h : ∀ c ∈ cs, c.Reports places) :
    (all cs).Reports places := by
  induction cs with
  | nil => exact reports_found []
  | cons c rest ih =>
    have hrest := ih fun c hc => h c (List.mem_cons_of_mem _ hc)
    have hfirst := h c List.mem_cons_self
    constructor
    · intro hnone hnil
      simp only [all] at hnone hnil
      obtain ⟨hc, hothers⟩ := List.append_eq_nil_iff.mp hnil
      cases hvalue : c.value with
      | none => exact hfirst.explained hvalue hc
      | some a =>
        cases hfound : (all rest).value with
        | none => exact hrest.explained hfound hothers
        | some as => simp [hvalue, hfound] at hnone
    · intro met hmet
      simp only [all] at hmet
      exact (List.mem_append.mp hmet).elim (hfirst.located met) (hrest.located met)

theorem reports_all_mapIdx {ι : Type} {f : Nat → ι → Checked α}
    (h : ∀ i d, (f i d).Reports places) (items : List ι) :
    (all (items.mapIdx f)).Reports places := by
  refine reports_all fun c hc => ?_
  obtain ⟨i, hi, rfl⟩ := List.mem_mapIdx.mp hc
  exact h _ _

theorem Reports.error_ne_nil {c : Checked α} (h : c.Reports places) {issues : List Issue}
    (hr : c.result = .error issues) : issues ≠ [] := by
  obtain ⟨value, found⟩ := c
  cases value with
  | none =>
    obtain rfl : found = issues := by simpa [result] using hr
    exact h.explained rfl
  | some a =>
    cases found with
    | nil => simp [result] at hr
    | cons first rest =>
      obtain rfl : first :: rest = issues := by simpa [result] using hr
      simp

end Checked

open Checked

/-! ### Conditions -/

namespace Condition

variable {places : Location → Prop} {location : Location}

section Leaves

variable (hp : places location)

include hp

theorem reports_ofText (make : String → Condition) (fault : Fault) (d : Document) :
    (ofText location make fault d).Reports places := by
  unfold ofText
  split
  · exact reports_found _
  · exact reports_issue hp _

theorem reports_expectedValues (fields : List (String × Document)) :
    (expectedValues location fields).Reports places := by
  induction fields with
  | nil => exact reports_found []
  | cons field rest ih =>
    unfold expectedValues
    split
    · exact reports_issue hp _
    · exact ih.bind fun _ => reports_pure _

theorem reports_leaf (fields : List (String × Document)) :
    (leaf location fields).Reports places := by
  unfold leaf
  split
  · exact reports_ofText hp _ _ _
  split
  · unfold ofVar
    split
    · exact reports_found _
    · exact (reports_expectedValues hp _).bind fun _ => reports_pure _
    · exact reports_issue hp _
  split
  · exact reports_ofText hp _ _ _
  split
  · unfold ofStatus
    split
    · exact reports_found _
    · exact reports_issue hp _
  split
  · unfold ofStep
    split
    · exact reports_found _
    · exact reports_issue hp _
  split
  · unfold ofLastStep
    split
    · exact reports_found _
    split
    · exact reports_found _
    · exact reports_issue hp _
  split
  · exact reports_ofText hp _ _ _
  · exact reports_issue hp _

end Leaves

mutual

theorem reports_check (hp : places location) (d : Document) :
    (check location d).Reports places := by
  cases d with
  | object fields =>
    rw [check]
    split
    · rename_i items hall
      have hlt := Document.sizeOf_items_lt hall
      exact (reports_checkMembers hp items).bind fun _ => reports_pure _
    · exact reports_issue hp _
    split
    · rename_i items hany
      have hlt := Document.sizeOf_items_lt hany
      exact (reports_checkMembers hp items).bind fun _ => reports_pure _
    · exact reports_issue hp _
    split
    · rename_i inner hnot
      have hlt := Document.sizeOf_field_lt hnot
      exact (reports_check hp inner).bind fun _ => reports_pure _
    · exact reports_leaf hp fields
  | _ =>
    rw [check]
    · exact reports_issue hp _
    · simp
termination_by sizeOf d
decreasing_by all_goals exact hlt

theorem reports_checkMembers (hp : places location) (items : List Document) :
    (checkMembers location items).Reports places := by
  cases items with
  | nil =>
    rw [checkMembers]
    exact reports_found []
  | cons d rest =>
    rw [checkMembers]
    exact (reports_check hp d).bind fun _ =>
      (reports_checkMembers hp rest).bind fun _ => reports_pure _
termination_by sizeOf items

end

end Condition

/-! ### Run steps -/

theorem reports_optionalText {places : Location → Prop} {location : Location}
    (hp : places location) (d : Option Document) (fault : Fault) :
    (optionalText d fault location).Reports places := by
  unfold optionalText
  split
  · exact reports_found _
  · exact reports_found _
  · exact reports_noted hp _

namespace RunStep

variable {places : Location → Prop} {location : Location} (hp : places location)

include hp

theorem reports_commandText (d : Option Document) (field : String) :
    (commandText d field location).Reports places := by
  unfold commandText
  split
  · split
    · exact reports_issue hp _
    · exact reports_found _
  · exact reports_issue hp _

theorem reports_timeoutOf (d : Option Document) : (timeoutOf d location).Reports places := by
  unfold timeoutOf
  split
  · exact reports_found _
  split
  · split
    · split
      · exact reports_found _
      · exact reports_noted hp _
    · exact reports_noted hp _
  · exact reports_noted hp _

theorem reports_retryOf (d : Option Document) : (retryOf d location).Reports places := by
  unfold retryOf
  split
  · exact reports_found _
  · exact reports_found _
  · split
    · exact reports_found _
    · exact (reports_noted hp _).bind fun _ => reports_pure _

theorem reports_shellParts (index : Nat) (items : List Document) :
    (shellParts location index items).Reports places := by
  induction items generalizing index with
  | nil => exact reports_found []
  | cons d rest ih =>
    cases d with
    | text s => exact (ih (index + 1)).bind fun _ => reports_pure _
    | _ => exact reports_issue hp _

theorem reports_shellOf (d : Option Document) : (shellOf d location).Reports places := by
  unfold shellOf
  split
  · exact reports_found _
  · exact reports_noted hp _
  · exact (reports_shellParts hp 0 _).optional
  · exact reports_noted hp _

theorem reports_continueOf (d : Option Document) : (continueOf d location).Reports places := by
  unfold continueOf
  split
  · exact reports_found _
  · exact reports_found _
  · exact (reports_noted hp _).bind fun _ => reports_pure _

theorem reports_fallbacksOf (d : Document) : (fallbacksOf location d).Reports places := by
  cases d with
  | object fields =>
    rw [fallbacksOf]
    refine (reports_commandText hp _ _).bind fun command => ?_
    refine (reports_timeoutOf hp _).bind fun timeout => ?_
    refine (reports_retryOf hp _).bind fun retry => ?_
    split
    · exact reports_pure _
    · exact reports_pure _
    · rename_i next _ hnext
      have hlt := Document.sizeOf_field_lt hnext
      exact (reports_fallbacksOf next).bind fun _ => reports_pure _
  | _ =>
    rw [fallbacksOf]
    · exact reports_issue hp _
    · simp
termination_by sizeOf d
decreasing_by all_goals exact hlt

theorem reports_captureText {fields : Fields} {key : String} (h : fields.has key = true)
    (index : Nat) : (captureText fields index key location).Reports places := by
  unfold captureText
  split
  · exact reports_found _
  · exact reports_issue hp _
  · rename_i hnone
    have hfind : Bindings.find? fields key = none := hnone
    simp [Fields.has, Bindings.isBound, hfind] at h

theorem reports_extractionOf (fields : Fields) (index : Nat) :
    (extractionOf fields index location).Reports places := by
  unfold extractionOf
  have text : ∀ {key : String} {make : String → Extraction}, fields.has key = true →
      (do return make (← captureText fields index key location) : Checked Extraction).Reports places :=
    fun h => (reports_captureText hp h index).bind fun _ => reports_pure _
  split
  · exact text ‹_›
  split
  · exact text ‹_›
  split
  · exact text ‹_›
  split
  · exact text ‹_›
  split
  · exact text ‹_›
  split
  · rename_i hboth
    obtain ⟨hafter, hbefore⟩ := Bool.and_eq_true_iff.mp hboth
    exact (reports_captureText hp hafter index).bind fun _ => text hbefore
  split
  · exact text ‹_›
  split
  · exact text ‹_›
  split
  · dsimp only
    split
    · exact reports_found _
    · exact reports_issue hp _
  · exact reports_found _

theorem reports_captureOf (index : Nat) (d : Document) :
    (captureOf location index d).Reports places := by
  unfold captureOf
  split
  · split
    · exact reports_issue hp _
    · exact (reports_extractionOf hp _ index).bind fun _ => reports_pure _
  · exact reports_issue hp _

theorem reports_capturesOf (d : Option Document) : (capturesOf d location).Reports places := by
  unfold capturesOf
  split
  · exact reports_found _
  · exact reports_all_mapIdx (reports_captureOf hp) _
  · exact reports_issue hp _

theorem reports_check (fields : Fields) : (check fields location).Reports places := by
  unfold check
  refine (reports_commandText hp _ _).bind fun command => ?_
  refine (reports_timeoutOf hp _).bind fun timeout => ?_
  refine (reports_retryOf hp _).bind fun retry => ?_
  refine (reports_shellOf hp _).bind fun shell => ?_
  refine (reports_continueOf hp _).bind fun continueOnError => ?_
  have rest : ∀ fallbacks : List Fallback, (do
      let captures ← capturesOf (fields.get? "captures") location
      return { command, timeout, retry, shell, continueOnError, fallbacks, captures } :
        Checked RunStep).Reports places :=
    fun _ => (reports_capturesOf hp _).bind fun _ => reports_pure _
  dsimp only
  split
  · exact (reports_found _).bind rest
  · exact (reports_fallbacksOf hp _).bind rest

end RunStep

/-! ### Other steps -/

section Texts

variable {α : Type} {places : Location → Prop} {location : Location} (hp : places location)

include hp

theorem located_required {o : Option String} {fault : Fault} {f : Option String → Checked α}
    (hf : ∀ o, (f o).Located places) :
    (match o with
      | some text => found (some text) >>= f
      | none => (issue fault location).optional >>= f).Located places := by
  cases o with
  | some text => exact (reports_found (some text)).located.bind hf
  | none => exact (reports_noted hp fault).located.bind hf

theorem reports_required {o : Option String} {fault : Fault} {f : Option String → Checked α}
    (hf : ∀ text, (f (some text)).Reports places) (hnone : (f none).Located places) :
    (match o with
      | some text => found (some text) >>= f
      | none => (issue fault location).optional >>= f).Reports places := by
  cases o with
  | some text => exact (reportsPart_found text).bind hf hnone
  | none => exact (reports_issue hp fault).part.bind hf hnone

end Texts

namespace ChooseStep

variable {places : Location → Prop} {location : Location} (hp : places location)

include hp

theorem reports_optionOf (index : Nat) (d : Document) :
    (optionOf location index d).Reports places := by
  unfold optionOf
  dsimp only
  refine reports_required hp (fun id => ?_) (located_required hp fun label => located_ofOption _)
  exact reports_required hp (fun label => reports_pure _) (located_ofOption _)

theorem reports_optionsOf (d : Option Document) : (optionsOf d location).Reports places := by
  unfold optionsOf
  split
  · exact reports_issue hp _
  · exact reports_all_mapIdx (reports_optionOf hp) _
  · exact reports_issue hp _

theorem reports_check (d : Option Document) : (check d location).Reports places := by
  unfold check
  split
  · rename_i fields
    have options := reports_optionsOf hp (Fields.get? fields "options")
    have name := reports_optionalText hp (Fields.get? fields "as") .chooseName
    dsimp only
    refine reports_required hp (fun message => ?_) ?_
    · refine options.part.bind (fun options => ?_) ?_
      · exact name.bind fun _ => reports_pure _
      · exact name.located.bind fun _ => located_ofOption _
    · refine options.optional.located.bind fun options => ?_
      exact name.located.bind fun _ => located_ofOption _
  · exact reports_issue hp _

end ChooseStep

section Parts

variable {places : Location → Prop} {location : Location} (hp : places location)

include hp

theorem PromptStep.located_default {α : Type} {d : Option Document} {f : Option String → Checked α}
    (hf : ∀ o, (f o).Located places) :
    (match Document.present d with
      | none => found none >>= f
      | some d =>
        match d.scalarText? with
        | some text => found (some text) >>= f
        | none => (issue .promptDefault location).optional >>= f).Located places := by
  split
  · exact (reports_found _).located.bind hf
  split
  · exact (reports_found _).located.bind hf
  · exact (reports_noted hp _).located.bind hf

theorem PromptStep.reports_check (d : Option Document) : (check d location).Reports places := by
  unfold check
  split
  · dsimp only
    refine reports_required hp (fun message => ?_) ?_
    · refine reports_required hp (fun storeAs => ?_) ?_
      · split
        · exact (reports_found _).bind fun _ => reports_pure _
        split
        · exact (reports_found _).bind fun _ => reports_pure _
        · exact (reports_noted hp _).bind fun _ => reports_pure _
      · exact located_default hp fun _ => located_ofOption _
    · exact located_required hp fun storeAs => located_default hp fun _ => located_ofOption _
  · exact reports_issue hp _

theorem reports_failMessage (d : Option Document) : (failMessage d location).Reports places := by
  unfold failMessage
  dsimp only
  split
  · exact reports_found _
  · exact reports_issue hp _

theorem reports_kindOf (fields : Fields) : (kindOf fields location).Reports places := by
  unfold kindOf
  split
  · exact reports_found _
  · exact reports_issue hp _
  · exact reports_issue hp _

theorem reports_guardOf (fields : Fields) : (guardOf fields location).Reports places := by
  unfold guardOf
  split
  · exact reports_found _
  · exact (Condition.reports_check hp _).bind fun _ => reports_pure _

end Parts

theorem Branch.reports_check {places : Location → Prop} {step branch : Nat}
    (hp : places (.branch step branch)) (d : Document) :
    (check step branch d).Reports places := by
  unfold check
  split
  · refine (reports_kindOf hp _).bind fun kind => (reports_guardOf hp _).bind fun guard => ?_
    split
    · exact (RunStep.reports_check hp _).bind fun _ => reports_pure _
    split
    · exact (reports_failMessage hp _).bind fun _ => reports_pure _
    split
    · exact reports_issue hp _
    · exact reports_issue hp _
  · exact reports_issue hp _

/-- The places of a step: its own, and those of its branches. -/
def Location.IsIn (index : Nat) (l : Location) : Prop := l = .step index ∨ ∃ j, l = .branch index j

theorem Location.isIn_step (index : Nat) : (Location.step index).IsIn index := .inl rfl

theorem Location.isIn_branch (index j : Nat) : (Location.branch index j).IsIn index := .inr ⟨j, rfl⟩

theorem reports_branchesOf (d : Option Document) (index : Nat) :
    (branchesOf d index).Reports (Location.IsIn index) := by
  unfold branchesOf
  split
  · exact reports_issue (Location.isIn_step index) _
  · exact reports_all_mapIdx (fun j => Branch.reports_check (Location.isIn_branch index j)) _
  · exact reports_issue (Location.isIn_step index) _

theorem Step.reports_check (index : Nat) (d : Document) :
    (check index d).Reports (Location.IsIn index) := by
  have hp := Location.isIn_step index
  unfold check
  split
  · refine (reports_kindOf hp _).bind fun kind => (reports_guardOf hp _).bind fun guard => ?_
    split
    · exact (RunStep.reports_check hp _).bind fun _ => reports_pure _
    split
    · exact (ChooseStep.reports_check hp _).bind fun _ => reports_pure _
    split
    · exact (PromptStep.reports_check hp _).bind fun _ => reports_pure _
    split
    · exact (reports_branchesOf _ index).bind fun _ => reports_pure _
    · exact (reports_failMessage hp _).bind fun _ => reports_pure _
  · exact reports_issue hp _

/-! ### Workflows -/

namespace Workflow

/-- The places of what stands beside the steps. -/
def IsRootPlace (l : Location) : Prop := l = .root ∨ ∃ i, l = .profile i

theorem reports_profileVariables {places : Location → Prop} {location : Location}
    (hp : places location) (fields : List (String × Document)) :
    (profileVariables location fields).Reports places := by
  induction fields with
  | nil => exact reports_found []
  | cons field rest ih =>
    unfold profileVariables
    have rest : ∀ text : Option String, (do
        let others ← profileVariables location rest
        return match text with
          | some text => (field.1, text) :: others
          | none => others : Checked (Bindings String)).Reports places :=
      fun _ => ih.bind fun _ => reports_pure _
    dsimp only
    split
    · exact (reports_found _).bind rest
    · exact (reports_noted hp _).bind rest

theorem reports_profileOf (index : Nat) (d : Document) :
    (profileOf index d).Reports IsRootPlace := by
  have hp : IsRootPlace (.profile index) := .inr ⟨index, rfl⟩
  unfold profileOf
  dsimp only
  split
  · exact reports_issue hp _
  · split
    · exact (reports_found _).bind fun _ => reports_pure _
    · exact (reports_profileVariables hp _).bind fun _ => reports_pure _
    · exact (reports_issue hp _).bind fun _ => reports_pure _

theorem reports_profilesOf (d : Option Document) : (profilesOf d).Reports IsRootPlace := by
  unfold profilesOf
  split
  · exact reports_found _
  · exact reports_all_mapIdx reports_profileOf _
  · exact reports_issue (.inl rfl) _

/-- Any place of a document. -/
def IsPlace (_ : Location) : Prop := True

theorem reports_stepsOf (d : Option Document) : (stepsOf d).Reports IsPlace := by
  unfold stepsOf
  split
  · exact reports_issue trivial _
  · exact reports_issue trivial _
  · exact reports_all_mapIdx (fun i d => (Step.reports_check i d).mono fun _ _ => trivial) _
  · exact reports_issue trivial _

theorem reports_check (d : Document) : (check d).Reports IsPlace := by
  have hp : IsPlace .root := trivial
  unfold check
  split
  · refine (reports_optionalText hp _ _).bind fun name => ?_
    refine (reports_optionalText hp _ _).bind fun baseDir => ?_
    refine (RunStep.reports_shellOf hp _).bind fun shell => ?_
    refine ((reports_profilesOf _).mono fun _ _ => trivial).part.bind (fun profiles => ?_)
      fun _ _ => trivial
    exact (reports_stepsOf _).part.bind (fun steps => reports_pure _) fun _ _ => trivial
  · exact reports_issue hp _

theorem issues_of_ofDocument {d : Document} {e : WorkflowError} (h : ofDocument d = .error e) :
    ∃ first rest, e = .validation (first :: rest) := by
  unfold ofDocument at h
  cases hr : (check (Repair.document d)).result with
  | ok w => simp [hr, Except.mapError] at h
  | error issues =>
    simp only [hr, Except.mapError, Except.error.injEq] at h
    cases issues with
    | nil => exact absurd rfl ((reports_check _).error_ne_nil hr)
    | cons first rest => exact ⟨first, rest, h.symm⟩

end Workflow

end Runbook
