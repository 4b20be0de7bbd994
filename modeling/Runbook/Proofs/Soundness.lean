import Runbook.Proofs.HistoryGrammar
import Runbook.Proofs.TextCuts

/-!
What a checked workflow is made of. Main statement: the workflow that a document writes has steps,
all its texts that must say something do so, its lists are filled, and its branches run a command or
stop the workflow; so no run of it comes to a branch that refuses what it is to do.
-/

namespace Runbook

open Program (Runs)

/-! ### Texts -/

/-- A name: a text without blanks at its ends, and not empty. -/
def IsName (s : String) : Prop := trimmed s = s ∧ s ≠ ""

theorem trimmed_trimmed (s : String) : trimmed (trimmed s) = trimmed s := by
  simp [trimmed, Text.trim_trim]

theorem isName_of_trimmedText? {d : Option Document} {s : String} (h : trimmedText? d = some s) :
    IsName s := by
  obtain ⟨htext, hfilled⟩ := Option.filter_eq_some_iff.mp h
  obtain ⟨text, _, rfl⟩ := Option.map_eq_some_iff.mp htext
  refine ⟨trimmed_trimmed text, fun hempty => ?_⟩
  simp [hempty] at hfilled

theorem isBlank_of_filledText? {d : Option Document} {s : String} (h : filledText? d = some s) :
    isBlank s = false := by
  simpa using (Option.filter_eq_some_iff.mp h).2

/-! ### Actions -/

/-- A run step: its commands say something, and its lists and names are filled. -/
structure RunStep.IsSound (step : RunStep) : Prop where
  command : isBlank step.command = false
  fallbacks : ∀ f ∈ step.fallbacks, isBlank f.command = false
  shell : step.shell ≠ some []
  captures : ∀ rule ∈ step.captures, IsName rule.variableName

structure ChooseStep.IsSound (step : ChooseStep) : Prop where
  message : isBlank step.message = false
  options_ne_nil : step.options ≠ []
  options : ∀ o ∈ step.options, isBlank o.id = false ∧ isBlank o.label = false

structure PromptStep.IsSound (step : PromptStep) : Prop where
  message : isBlank step.message = false
  storeAs : isBlank step.storeAs = false

def Action.IsSound : Action → Prop
  | .run step => step.IsSound
  | .choose step => step.IsSound
  | .prompt step => step.IsSound
  | .fail message => isBlank message = false

namespace RunStep

variable {location : Location}

theorem isBlank_of_commandText {d : Option Document} {field command : String}
    (h : (commandText d field location).value = some command) : isBlank command = false := by
  unfold commandText at h
  split at h
  · split at h
    · simp at h
    · rename_i s hs
      obtain rfl : s = command := by simpa using h
      simpa using hs
  · simp at h

theorem isBlank_of_fallbacksOf (d : Document) : ∀ {fallbacks : List Fallback},
    (fallbacksOf location d).value = some fallbacks →
      ∀ f ∈ fallbacks, isBlank f.command = false := by
  cases d with
  | object fields =>
    intro fallbacks h
    rw [fallbacksOf] at h
    obtain ⟨command, hcommand, htimeout⟩ := Checked.value_bind.mp h
    obtain ⟨timeout, _, hretry⟩ := Checked.value_bind.mp htimeout
    obtain ⟨retry, _, hnext⟩ := Checked.value_bind.mp hretry
    have hfilled := isBlank_of_commandText hcommand
    split at hnext
    · obtain rfl := Checked.value_pure.mp hnext
      simpa using hfilled
    · obtain rfl := Checked.value_pure.mp hnext
      simpa using hfilled
    · rename_i next _ hfind
      have hlt := Document.sizeOf_field_lt hfind
      obtain ⟨others, hothers, hall⟩ := Checked.value_bind.mp hnext
      obtain rfl := Checked.value_pure.mp hall
      exact List.forall_mem_cons.mpr ⟨hfilled, isBlank_of_fallbacksOf next hothers⟩
  | _ => simp [fallbacksOf]
termination_by sizeOf d
decreasing_by all_goals exact hlt

theorem length_of_shellParts {items : List Document} {index : Nat} {parts : List String}
    (h : (shellParts location index items).value = some parts) : parts.length = items.length := by
  induction items generalizing index parts with
  | nil =>
    obtain rfl : [] = parts := by simpa [shellParts] using h
    rfl
  | cons d rest ih =>
    cases d with
    | text s =>
      obtain ⟨others, hothers, hparts⟩ := Checked.value_bind.mp h
      obtain rfl := Checked.value_pure.mp hparts
      simp [ih hothers]
    | _ => simp [shellParts] at h

theorem ne_nil_of_shellOf {d : Option Document} {shell : Option (List String)}
    (h : (shellOf d location).value = some shell) : shell ≠ some [] := by
  unfold shellOf at h
  split at h
  · obtain rfl : none = shell := by simpa using h
    simp
  · obtain rfl : none = shell := by simpa using h
    simp
  · rename_i items hne _
    rw [Checked.value_optional, Option.some.injEq] at h
    intro hnil
    have hlen := length_of_shellParts (h.trans hnil)
    exact hne (List.length_eq_zero_iff.mp hlen.symm)
  · obtain rfl : none = shell := by simpa using h
    simp

theorem isName_of_captureOf {index : Nat} {d : Document} {rule : CaptureRule}
    (h : (captureOf location index d).value = some rule) : IsName rule.variableName := by
  unfold captureOf at h
  split at h
  · split at h
    · simp at h
    · rename_i name hname
      obtain ⟨e, _, hrule⟩ := Checked.value_bind.mp h
      obtain rfl := Checked.value_pure.mp hrule
      exact isName_of_trimmedText? hname
  · simp at h

theorem isName_of_capturesOf {d : Option Document} {rules : List CaptureRule}
    (h : (capturesOf d location).value = some rules) : ∀ rule ∈ rules, IsName rule.variableName := by
  unfold capturesOf at h
  split at h
  · obtain rfl : [] = rules := by simpa using h
    simp
  · intro rule hrule
    obtain ⟨i, item, hcapture⟩ := Checked.exists_of_mem (Checked.value_all.mp h) hrule
    exact isName_of_captureOf hcapture
  · simp at h

theorem isSound_of_check {fields : Fields} {step : RunStep}
    (h : (check fields location).value = some step) : step.IsSound := by
  have hfound := found_of_check h
  refine ⟨isBlank_of_commandText hfound.command, ?_, ne_nil_of_shellOf hfound.shell,
    isName_of_capturesOf hfound.captures⟩
  rcases hfound.fallbacks with hnone | ⟨d, hsome⟩
  · simp [hnone]
  · exact isBlank_of_fallbacksOf d hsome

end RunStep

namespace ChooseStep

variable {location : Location}

theorem isBlank_of_optionOf {index : Nat} {d : Document} {o : ChoiceOption}
    (h : (optionOf location index d).value = some o) :
    isBlank o.id = false ∧ isBlank o.label = false := by
  unfold optionOf at h
  cases hid : filledText? (d.field? "id") with
  | none => cases hlabel : filledText? (d.field? "label") <;> rw [hid, hlabel] at h <;> cases h
  | some id =>
    cases hlabel : filledText? (d.field? "label") with
    | none =>
      rw [hid, hlabel] at h
      cases h
    | some label =>
      rw [hid, hlabel] at h
      obtain rfl : ⟨id, label⟩ = o := Option.some.inj h
      exact ⟨isBlank_of_filledText? hid, isBlank_of_filledText? hlabel⟩

theorem isSound_of_optionsOf {d : Option Document} {options : List ChoiceOption}
    (h : (optionsOf d location).value = some options) :
    options ≠ [] ∧ ∀ o ∈ options, isBlank o.id = false ∧ isBlank o.label = false := by
  unfold optionsOf at h
  split at h
  · simp at h
  · rename_i items hne
    have hall := Checked.value_all.mp h
    refine ⟨Checked.ne_nil_of_forall₂ hall hne, fun o ho => ?_⟩
    obtain ⟨i, item, hoption⟩ := Checked.exists_of_mem hall ho
    exact isBlank_of_optionOf hoption
  · simp at h

theorem isSound_of_check {d : Option Document} {step : ChooseStep}
    (h : (check d location).value = some step) : step.IsSound := by
  have hfound := found_of_check h
  obtain ⟨hne, hoptions⟩ := isSound_of_optionsOf hfound.options
  exact ⟨isBlank_of_filledText? hfound.message, hne, hoptions⟩

end ChooseStep

theorem PromptStep.isSound_of_check {d : Option Document} {location : Location} {step : PromptStep}
    (h : (check d location).value = some step) : step.IsSound := by
  unfold check at h
  split at h
  · rename_i fields
    cases hmessage : filledText? (Fields.get? fields "message") <;>
      cases hname : filledText? (Fields.get? fields "as") <;>
      simp only [hmessage, hname, Checked.value_found_bind, Checked.value_noted_bind] at h
    case some.some message storeAs =>
      have hfilled := And.intro (isBlank_of_filledText? hmessage) (isBlank_of_filledText? hname)
      split at h
      · obtain rfl := Checked.value_pure.mp h
        exact ⟨hfilled.1, hfilled.2⟩
      · split at h <;>
        · obtain rfl := Checked.value_pure.mp h
          exact ⟨hfilled.1, hfilled.2⟩
    -- without one of the two texts nothing is found, whatever the default is
    all_goals
      split at h
      · simp [Checked.ofOption, Checked.value_found_bind] at h
      · split at h <;> simp [Checked.ofOption, Checked.value_found_bind, Checked.value_noted_bind] at h
  · simp at h

theorem isBlank_of_failMessage {d : Option Document} {location : Location} {message : String}
    (h : (failMessage d location).value = some message) : isBlank message = false := by
  unfold failMessage at h
  dsimp only at h
  split at h
  · rename_i text htext
    obtain rfl : text = message := by simpa using h
    simpa using (Option.filter_eq_some_iff.mp htext).2
  · simp at h

/-! ### Steps and workflows -/

def Branch.IsSound (b : Branch) : Prop := b.action.IsSound ∧ b.IsUnattended

def Step.IsSound (step : Step) : Prop :=
  match step.body with
  | .action action => action.IsSound
  | .parallel branches => branches ≠ [] ∧ ∀ b ∈ branches, b.IsSound

/-- A workflow whose texts say something and whose lists are filled. -/
structure Workflow.IsSound (w : Workflow) : Prop where
  steps_ne_nil : w.steps ≠ []
  steps : ∀ step ∈ w.steps, step.IsSound
  shell : w.shell ≠ some []
  profiles : ∀ p ∈ w.profiles, IsName p.name

theorem Branch.isSound_of_check {step branch : Nat} {d : Document} {b : Branch}
    (h : (check step branch d).value = some b) : b.IsSound := by
  refine ⟨?_, isUnattended_of_check h⟩
  obtain ⟨fields, kind, rfl, _, _, hfound⟩ := found_of_check h
  generalize b.action = action at hfound
  cases hfound with
  | run hrun => exact RunStep.isSound_of_check hrun
  | fail hfail => exact isBlank_of_failMessage hfail

theorem isSound_of_branchesOf {d : Option Document} {index : Nat} {branches : List Branch}
    (h : (branchesOf d index).value = some branches) :
    branches ≠ [] ∧ ∀ b ∈ branches, b.IsSound := by
  unfold branchesOf at h
  split at h
  · simp at h
  · rename_i items hne
    have hall := Checked.value_all.mp h
    refine ⟨Checked.ne_nil_of_forall₂ hall hne, fun b hb => ?_⟩
    obtain ⟨i, item, hcheck⟩ := Checked.exists_of_mem hall hb
    exact Branch.isSound_of_check hcheck
  · simp at h

theorem Step.isSound_of_check {index : Nat} {d : Document} {step : Step}
    (h : (check index d).value = some step) : step.IsSound := by
  obtain ⟨fields, kind, rfl, _, _, hfound⟩ := found_of_check h
  unfold IsSound
  generalize step.body = body at hfound ⊢
  cases hfound with
  | run hrun => exact RunStep.isSound_of_check hrun
  | choose hchoose => exact ChooseStep.isSound_of_check hchoose
  | prompt hprompt => exact PromptStep.isSound_of_check hprompt
  | parallel hbranches => exact isSound_of_branchesOf hbranches
  | fail hfail => exact isBlank_of_failMessage hfail

theorem Step.IsSound.isWellFormed {step : Step} (h : step.IsSound) : step.IsWellFormed := by
  intro branches hbody b hb
  simp only [IsSound, hbody] at h
  exact (h.2 b hb).2

namespace Workflow

theorem isName_of_profileOf {index : Nat} {d : Document} {p : Profile}
    (h : (profileOf index d).value = some p) : IsName p.name := by
  unfold profileOf at h
  dsimp only at h
  split at h
  · simp at h
  · rename_i name hname
    have named : ∀ {c : Checked (Bindings String)},
        (do return ⟨name, ← c⟩ : Checked Profile).value = some p → IsName p.name := by
      intro c hc
      obtain ⟨vars, _, hp⟩ := Checked.value_bind.mp hc
      obtain rfl := Checked.value_pure.mp hp
      exact isName_of_trimmedText? hname
    split at h <;> exact named h

theorem isName_of_profilesOf {d : Option Document} {profiles : List Profile}
    (h : (profilesOf d).value = some profiles) : ∀ p ∈ profiles, IsName p.name := by
  unfold profilesOf at h
  split at h
  · obtain rfl : [] = profiles := by simpa using h
    simp
  · intro p hp
    obtain ⟨i, item, hprofile⟩ := Checked.exists_of_mem (Checked.value_all.mp h) hp
    exact isName_of_profileOf hprofile
  · simp at h

theorem isSound_of_check {d : Document} {w : Workflow} (h : (check d).value = some w) :
    w.IsSound := by
  obtain ⟨fields, rfl, hfound⟩ := found_of_check h
  obtain ⟨items, hne, _, hsteps⟩ := items_of_stepsOf hfound.steps
  refine ⟨Checked.ne_nil_of_forall₂ hsteps hne, fun step hstep => ?_,
    RunStep.ne_nil_of_shellOf hfound.shell, isName_of_profilesOf hfound.profiles⟩
  obtain ⟨i, item, hcheck⟩ := Checked.exists_of_mem hsteps hstep
  exact Step.isSound_of_check hcheck

end Workflow

/-! ### Refusals -/

/-- The branch comes to an action that branches do not take. -/
def Branch.Refuses (b : Branch) (scope : RunScope) (label : StepLabel) (branch : Nat)
    (w : Workspace) : Prop :=
  ∃ es cause, Runs (b.take scope label branch w) es (.error cause)

theorem Branch.refuses_iff {b : Branch} {scope : RunScope} {label : StepLabel} {branch : Nat}
    {w : Workspace} : b.Refuses scope label branch w ↔
      (∃ checks, Runs (Step.isDue b.guard scope w) checks true) ∧ ¬ b.IsUnattended := by
  constructor
  · rintro ⟨es, cause, h⟩
    refine ⟨?_, fun hb => ?_⟩
    · obtain ⟨checks, due, tail, rfl, hdue, htail⟩ := Program.runs_bind.mp h
      cases due with
      | true => exact ⟨checks, hdue⟩
      | false =>
        obtain ⟨_, _, rest, rfl, _, hrest⟩ := Program.runs_bind.mp htail
        obtain ⟨_, _, _, rfl, _, _, hend⟩ := Program.runs_bind.mp hrest
        cases hend
    · obtain ⟨e, he, _⟩ := Branch.taken_of_runs hb h
      cases he
  · rintro ⟨⟨checks, hdue⟩, hb⟩
    have refuse : ∀ cause : String, (b.take scope label branch w =
        Step.isDue b.guard scope w >>= fun due => if due then pure (.error cause) else do
          Task.display (.stepSkipped label)
          Task.record (.stepSkipped label.index (some branch))
          return .ok ⟨true, w⟩) → b.Refuses scope label branch w := by
      intro cause htake
      refine ⟨checks, cause, ?_⟩
      rw [htake]
      exact Program.runs_bind.mpr ⟨checks, true, [], by simp, hdue, rfl, rfl⟩
    unfold IsUnattended at hb
    unfold take at refuse
    cases haction : b.action with
    | run step => exact absurd (.inl ⟨step, haction⟩) hb
    | fail message => exact absurd (.inr ⟨message, haction⟩) hb
    | choose step =>
      exact refuse "'choose' step cannot run inside a parallel block" (by simp only [haction])
    | prompt step =>
      exact refuse "'prompt' step cannot run inside a parallel block" (by simp only [haction])

namespace Run

variable {bounds : RunBounds} {scope : RunScope}

/-- Steps in turn come to a branch that refuses its action: in the first step, or in a later one
after steps that let the run go on. -/
inductive Refuses (bounds : RunBounds) (scope : RunScope) : Nat → Workspace → List Step → Prop where
  | here {index w step rest checks branches i} {b : Branch}
      (hdue : Runs (Step.isDue step.guard scope w) checks true)
      (hbody : step.body = .parallel branches) (hbranch : branches[i]? = some b)
      (h : b.Refuses scope (branchLabel scope b index i w) i w) :
    Refuses bounds scope index w (step :: rest)
  | later {index w step rest es e} (htake : Runs (takeStep bounds scope step index w) es e)
      (hgoes : e.failure = none) (h : Refuses bounds scope (index + 1) e.workspace rest) :
    Refuses bounds scope index w (step :: rest)

theorem not_refuses {steps : List Step} (hsteps : ∀ step ∈ steps, step.IsWellFormed) {index : Nat}
    {w : Workspace} : ¬ Refuses bounds scope index w steps := by
  intro h
  induction h with
  | here hdue hbody hbranch h =>
    have hunattended := hsteps _ List.mem_cons_self _ hbody _ (List.mem_of_getElem? hbranch)
    exact (Branch.refuses_iff.mp h).2 hunattended
  | later _ _ _ ih => exact ih fun step hstep => hsteps step (List.mem_cons_of_mem _ hstep)

end Run

namespace Workflow

theorem IsSound.withSource {w : Workflow} (h : w.IsSound) (source : WorkflowSource) :
    { w with source }.IsSound := ⟨h.steps_ne_nil, h.steps, h.shell, h.profiles⟩

theorem IsSound.not_refuses {w : Workflow} (h : w.IsSound) (options : RunOptions)
    (current : FilePath) : ¬ Run.Refuses options.bounds (runScope w options current) 0
      (Run.initialWorkspace options.given) w.steps :=
  Run.not_refuses fun step hstep => (h.steps step hstep).isWellFormed

/-- The workflow that a document writes is sound, and no run of it, wherever the workflow is said to
come from and whatever its host replies, comes to a branch that refuses its action. So is every
workflow that is read from a file: a document writes it. -/
theorem sound_and_never_refused (w : Workflow) :
    (∀ d, (check d).result = .ok w →
      w.IsSound ∧ ∀ (source : WorkflowSource) (options : RunOptions) (current : FilePath),
        ¬ Run.Refuses options.bounds (runScope { w with source } options current) 0
          (Run.initialWorkspace options.given) w.steps) ∧
    ∀ format path resolved content, readFrom format path resolved content = .ok w →
      w.IsAccepted ∧ w.IsSound ∧ ∀ (options : RunOptions) (current : FilePath),
        ¬ Run.Refuses options.bounds (runScope w options current) 0
          (Run.initialWorkspace options.given) w.steps := by
  constructor
  · intro d h
    have hsound := isSound_of_check (Checked.result_eq_ok.mp h).1
    exact ⟨hsound, fun source => (hsound.withSource source).not_refuses⟩
  · intro format path resolved content h
    have haccepted := isAccepted_of_readFrom h
    obtain ⟨d, r, hr, hw⟩ := id haccepted
    have hsound : w.IsSound := by
      rw [← hw]
      exact (isSound_of_check (check_of_ofDocument hr).1).withSource w.source
    exact ⟨haccepted, hsound, hsound.not_refuses⟩

def everyKindDocument : Document :=
  .object [
    ("profiles", .list [.object [("name", .text " ci ")]]),
    ("shell", .list [.text "bash", .text "-c"]),
    ("steps", .list [
      .object [("choose", .object [("message", .text "where?"),
        ("options", .list [.object [("id", .text "a"), ("label", .text "A")]])])],
      .object [("prompt", .object [("as", .text "name"), ("message", .text "who?")])],
      .object [("parallel", .list [
        .object [("captures", .list [.object [("as", .text " v ")]]), ("run", .text "first")],
        .object [("fail", .text "stop")]])],
      .object [("fail", .object [("message", .text "over")])]])]

def everyKind : Workflow where
  name := none
  baseDir := none
  shell := some ["bash", "-c"]
  profiles := [⟨"ci", []⟩]
  steps := [⟨none, .action (.choose ⟨"where?", [⟨"a", "A"⟩], none⟩)⟩,
    ⟨none, .action (.prompt ⟨"who?", "name", none⟩)⟩,
    ⟨none, .parallel [⟨none, .run ⟨"first", none, .never, none, false, [], [⟨"v", .full⟩]⟩⟩,
      ⟨none, .fail "stop"⟩]⟩,
    ⟨none, .action (.fail "over")⟩]
  source := ⟨none, none, []⟩

theorem sound_and_never_refused_everyKind :
    (check everyKindDocument).result = .ok everyKind ∧ everyKind.IsSound ∧
      ∀ (source : WorkflowSource) (options : RunOptions) (current : FilePath),
        ¬ Run.Refuses options.bounds (runScope { everyKind with source } options current) 0
          (Run.initialWorkspace options.given) everyKind.steps :=
  have hcheck : (check everyKindDocument).result = .ok everyKind := rfl
  ⟨hcheck, (sound_and_never_refused _).1 _ hcheck⟩

end Workflow

end Runbook
