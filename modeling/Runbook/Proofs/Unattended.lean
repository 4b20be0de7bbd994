import Runbook.Proofs.SkippedSteps

/-!
Runs that nobody attends. Values given for a run, by a profile or over it, stand for the answers to
questions. Main statement: a run asks the questions of those steps that it takes and that have no
value given for them, each once and in their order, and nothing else; a question that has a value
given for it leaves that value, whatever was bound to its name before.
-/

namespace Runbook

open Program (Runs)

/-! ### Values given for a run -/

namespace Workflow

def profileValue? (w : Workflow) (profile : Option String) (name : String) : Option String :=
  (profile.bind fun p => w.profiles.find? (·.name = trimmed p)).bind (·.vars.find? name)

/-- The value given for a name: that of the override, or else that of the profile. -/
def givenValue? (w : Workflow) (profile : Option String) (overrides : Bindings String)
    (name : String) : Option String :=
  (overrides.find? name).or (w.profileValue? profile name)

section Given

variable {w : Workflow} {profile : Option String} {overrides given : Bindings String}

theorem of_runVariables (h : w.runVariables profile overrides = .ok given) :
    (profile = none ∧ given = overrides) ∨ ∃ name p, profile = some name ∧
      w.profiles.find? (·.name = trimmed name) = some p ∧ given = p.vars.union overrides := by
  unfold runVariables at h
  cases profile with
  | none =>
    obtain rfl := Except.ok.inj h
    exact .inl ⟨rfl, rfl⟩
  | some name =>
    refine .inr ?_
    simp only [profileVariables?] at h
    split at h
    · cases h
    · split at h
      · rename_i p hp
        obtain rfl := Except.ok.inj h
        exact ⟨name, p, rfl, hp, rfl⟩
      · cases h

theorem find?_runVariables (h : w.runVariables profile overrides = .ok given) (name : String) :
    given.find? name = w.givenValue? profile overrides name := by
  rcases of_runVariables h with ⟨rfl, rfl⟩ | ⟨asked, p, rfl, hp, rfl⟩
  · simp [givenValue?, profileValue?]
  · rw [Bindings.find?_union, givenValue?, profileValue?, Option.bind_some, hp,
      Option.bind_some]

end Given

end Workflow

theorem Run.variableNamed?_initialWorkspace (given : Bindings String) (name : String) :
    (initialWorkspace given).variableNamed? name = given.find? name :=
  (Bindings.find?_union ..).trans Option.or_none

/-! ### Questions -/

def Effect.question? : Effect → Option Question
  | .ask question => some question
  | _ => none

def questions (es : RunTrace) : List Question := es.filterMap (·.call.question?)

@[simp] theorem questions_append (es fs : RunTrace) :
    questions (es ++ fs) = questions es ++ questions fs :=
  List.filterMap_append

theorem questions_eq_nil {es : RunTrace} (h : ∀ e ∈ es, e.call.question? = none) :
    questions es = [] :=
  List.filterMap_eq_nil_iff.mpr h

theorem Effect.question?_of_isFrame {c : Effect} (h : c.IsFrame) : c.question? = none := by
  cases c with
  | ask => exact h.elim
  | _ => rfl

theorem Effect.question?_of_isStepWork {c : Effect} {index : Nat} (h : c.IsStepWork index False) :
    c.question? = none := by
  rcases h with ⟨branch, hwork⟩ | ⟨places, rfl⟩ | ⟨hasks, _⟩
  · cases c with
    | ask => exact hwork.elim
    | _ => rfl
  · rfl
  · exact hasks.elim

theorem questions_of_runs_isDue {guard : Option Condition} {scope : RunScope} {w : Workspace}
    {checks : RunTrace} {due : Bool} (h : Runs (Step.isDue guard scope w) checks due) :
    questions checks = [] := by
  refine questions_eq_nil fun e he => ?_
  obtain ⟨path, b, rfl⟩ := Step.isCheck_of_runs_isDue h e he
  rfl

namespace Step

def answerName? (step : Step) : Option String :=
  match step.body with
  | .action (.choose choice) => some choice.variableName
  | .action (.prompt entry) => some entry.storeAs
  | _ => none

def question? (step : Step) (w : Workspace) : Option Question :=
  match step.body with
  | .action (.choose choice) => some (.choose (Template.substitute w choice.message) choice.options)
  | .action (.prompt entry) => some (.enter (Template.substitute w entry.message)
      (entry.default.map (Template.substitute w)))
  | _ => none

variable {scope : RunScope} {label : StepLabel} {name : String} {question : Question}
  {w : Workspace} {es : RunTrace} {e : StepEnd}

/-- A question that has a value given for it is not asked, and leaves what is bound to that value;
any other one is asked once. -/
theorem questions_of_runs_question (make : String → ResolvedValue) (bound : String → Workspace)
    (h : Runs (do
      let start ← Task.clock
      match ← valueOrAnswer scope name question with
      | .ok value => complete label (make value) start.time (bound value)
      | .error cause => unanswered label cause start.time w) es e) :
    questions es = (if (scope.given.find? name).isNone then [question] else []) ∧
    ∀ value, scope.given.find? name = some value →
      e = ⟨none, (bound value).setOutcome label.index ⟨true, none⟩⟩ := by
  obtain ⟨started, asked, answer, finished, o, stamp, rfl, hasked, hend⟩ :=
    exchanges_of_runs_question make bound h
  cases hgiven : scope.given.find? name with
  | none =>
    rw [hgiven] at hasked
    obtain rfl := hasked
    exact ⟨rfl, nofun⟩
  | some value =>
    rw [hgiven] at hasked
    obtain ⟨rfl, rfl⟩ := hasked
    refine ⟨rfl, ?_⟩
    rintro _ ⟨⟩
    exact hend.2

end Step

namespace Run

/-- Whether the step of a passage was taken: it was not skipped. -/
def Passage.isTaken (p : Passage) : Bool :=
  !(recorded p.exchanges).contains (.stepSkipped p.index none)

theorem Passage.isTaken_eq_false {p : Passage}
    (h : .stepSkipped p.index none ∈ recorded p.exchanges) : p.isTaken = false := by
  simp [isTaken, h]

/-- The question that a passage asks: that of its step, if it is taken and there is no value for it.
-/
def Passage.asked? (value? : String → Option String) (p : Passage) : Option Question :=
  if p.isTaken && (p.step.answerName?.bind value?).isNone then p.step.question? p.before else none

/-- What a taken question with a value for its name leaves: the value is bound to the name, and it is
the choice, or the fact of that name. -/
def Passage.Answers (value? : String → Option String) (p : Passage) : Prop :=
  match p.step.body with
  | .action (.choose choice) => ∀ value, value? choice.variableName = some value →
    p.stop.failure = none ∧
    p.stop.workspace.variableNamed? choice.variableName = some value ∧
    p.stop.workspace.choiceNamed? value = some value
  | .action (.prompt entry) => ∀ value, value? entry.storeAs = some value →
    p.stop.failure = none ∧ p.stop.workspace.variableNamed? entry.storeAs = some value ∧
    p.stop.workspace.factNamed? entry.storeAs = some (.text value)
  | _ => True

section Steps

variable {bounds : RunBounds} {scope : RunScope} {p : Passage}

theorem questions_of_runs_takeDue {step : Step} {index : Nat} {w : Workspace} {es : RunTrace}
    {e : StepEnd} (hstep : ¬ step.body.asks) (h : Runs (takeDue bounds scope step index w) es e) :
    questions es = [] := by
  refine questions_eq_nil fun x hx => ?_
  have hwork := isStepWork_of_runs_takeDue h x hx
  rw [eq_false hstep] at hwork
  exact Effect.question?_of_isStepWork hwork

theorem Passage.asks_of_takeDue {checks es : RunTrace} (hes : p.exchanges = checks ++ es)
    (hchecks : questions checks = []) (htaken : p.isTaken = true)
    (h : Runs (takeDue bounds scope p.step p.index p.before) es p.stop) :
    questions p.exchanges = (p.asked? scope.given.find?).toList ∧ p.Answers scope.given.find? := by
  rw [hes, questions_append, hchecks, List.nil_append]
  have hquiet : ¬ p.step.body.asks → questions es = [] := fun hstep =>
    questions_of_runs_takeDue hstep h
  unfold takeDue at h
  cases hbody : p.step.body with
  | parallel branches =>
    rw [hquiet (by rw [hbody]; exact id)]
    simp [asked?, Answers, Step.question?, hbody]
  | action action =>
    rw [hbody] at h
    cases action with
    | run step =>
      rw [hquiet (by rw [hbody]; exact id)]
      simp [asked?, Answers, Step.question?, hbody]
    | fail message =>
      rw [hquiet (by rw [hbody]; exact id)]
      simp [asked?, Answers, Step.question?, hbody]
    | choose choice =>
      obtain ⟨hquestions, hend⟩ := Step.questions_of_runs_question .choice
        (fun id => (p.before.setChoice id id).setVariable choice.variableName id) h
      constructor
      · rw [hquestions]
        simp only [asked?, htaken, Step.question?, Step.answerName?, hbody, Bool.true_and,
          Option.bind_some]
        split <;> rfl
      · simp only [Answers, hbody]
        intro value hvalue
        rw [hend value hvalue]
        exact ⟨rfl, Bindings.find?_bind_self .., Bindings.find?_bind_self ..⟩
    | prompt entry =>
      obtain ⟨hquestions, hend⟩ := Step.questions_of_runs_question .prompt
        (fun value => (p.before.setVariable entry.storeAs value).setFact entry.storeAs
          (.text value)) h
      constructor
      · rw [hquestions]
        simp only [asked?, htaken, Step.question?, Step.answerName?, hbody, Bool.true_and,
          Option.bind_some]
        split <;> rfl
      · simp only [Answers, hbody]
        intro value hvalue
        rw [hend value hvalue]
        exact ⟨rfl, Bindings.find?_bind_self .., Bindings.find?_bind_self ..⟩

theorem Passage.asks_of_runs (h : Runs (takeStep bounds scope p.step p.index p.before) p.exchanges
    p.stop) : questions p.exchanges = (p.asked? scope.given.find?).toList ∧
      (p.isTaken = true → p.Answers scope.given.find?) := by
  obtain ⟨index, step, before, exchanges, stop⟩ := p
  have hpassed : StepPassed bounds scope step index before exchanges stop := stepPassed_of_runs h
  cases hpassed with
  | @skipped checks stamp hdue =>
    have hmem : .stepSkipped index none ∈ recorded (checks ++
        [⟨.display (.stepSkipped (stepLabel scope step index before)), ()⟩,
          ⟨.record (.stepSkipped index none), stamp⟩]) := by
      rw [recorded_append]
      exact List.mem_append_right _ List.mem_cons_self
    have hskipped := isTaken_eq_false (p := ⟨index, step, before, _, ⟨none, before⟩⟩) hmem
    refine ⟨?_, fun htaken => by rw [hskipped] at htaken; cases htaken⟩
    rw [asked?, hskipped, Bool.false_and, questions_append, questions_of_runs_isDue hdue]
    rfl
  | @taken checks es e hdue htakes =>
    have htaken : isTaken ⟨index, step, before, checks ++ es, stop⟩ = true := by
      have hwork := isStepWork_of_runs_takeDue htakes
      have hmem : .stepSkipped index none ∉ recorded es := fun hmem =>
        (of_mem_recorded hwork hmem).2 rfl
      simp [isTaken, recorded_of_runs_isDue hdue, hmem]
    obtain ⟨hquestions, hanswers⟩ :=
      asks_of_takeDue rfl (questions_of_runs_isDue hdue) htaken htakes
    exact ⟨hquestions, fun _ => hanswers⟩

end Steps

theorem Passage.asked?_eq_none {value? : String → Option String} {p : Passage}
    (h : ∀ name, p.step.answerName? = some name → (value? name).isSome) : p.asked? value? = none := by
  unfold asked?
  cases hname : p.step.answerName? with
  | none =>
    have hquestion : p.step.question? p.before = none := by
      unfold Step.answerName? at hname
      unfold Step.question?
      split at hname <;> simp_all
    rw [hquestion, ite_self]
  | some name =>
    obtain ⟨value, hvalue⟩ := Option.isSome_iff_exists.mp (h name hname)
    simp [hvalue]

end Run

namespace Workflow

variable {σ : Type} {w : Workflow} {host : RunHost σ} {options : RunOptions} {current : FilePath}
  {s : σ} {d : RunDriven σ Run} {profile : Option String} {overrides : Bindings String}

/-- A run with the values of a profile and of overrides, whatever its host replies. It begins with
these values as variables. It asks the questions of the steps that it takes and that have no value
given for them, each once and in their order, and nothing else. A question with a value given for it
that is taken leaves that value. So if all questions have one, the run asks nothing. -/
theorem asks_unanswered_only (hgiven : w.runVariables profile overrides = .ok options.given)
    (hd : w.run host options current s = some d) :
    (∀ name, (Run.initialWorkspace options.given).variableNamed? name =
      w.givenValue? profile overrides name) ∧
    (∃ passages, w.Passed options current passages d ∧
      questions d.exchanges = passages.filterMap (·.asked? (w.givenValue? profile overrides)) ∧
      ∀ p ∈ passages, p.isTaken = true → p.Answers (w.givenValue? profile overrides)) ∧
    ((∀ step ∈ w.steps, ∀ name, step.answerName? = some name →
      (w.givenValue? profile overrides name).isSome) → questions d.exchanges = []) := by
  have hvalues : options.given.find? = w.givenValue? profile overrides :=
    funext (find?_runVariables hgiven)
  obtain ⟨passages, hpassed⟩ := exists_passed hd
  have hasks : ∀ p ∈ passages, questions p.exchanges =
      (p.asked? (w.givenValue? profile overrides)).toList ∧
      (p.isTaken = true → p.Answers (w.givenValue? profile overrides)) := by
    intro p hp
    rw [← hvalues]
    exact Run.Passage.asks_of_runs (hpassed.passes.runs hp)
  have hquestions : questions d.exchanges =
      passages.filterMap (·.asked? (w.givenValue? profile overrides)) := by
    have hall : questions d.exchanges = passages.flatMap fun p => questions p.exchanges :=
      hpassed.filterMap_eq _ fun e => Effect.question?_of_isFrame
    rw [hall, List.filterMap_eq_flatMap_toList]
    exact List.flatMap_congr fun p hp => (hasks p hp).1
  refine ⟨fun name => ?_, ⟨passages, hpassed, hquestions, fun p hp => (hasks p hp).2⟩, ?_⟩
  · rw [Run.variableNamed?_initialWorkspace, hvalues]
  · intro hcovered
    rw [hquestions]
    refine List.filterMap_eq_nil_iff.mpr fun p hp => Run.Passage.asked?_eq_none ?_
    exact hcovered p.step (hpassed.passes.step_mem hp)

def answered : Workflow := { asking with profiles := [⟨"ci", [("v", "here")]⟩] }

theorem asks_unanswered_only_answered : ∃ d : RunDriven Rehearsal Run,
    answered.runVariables (some " ci ") [] = .ok [("v", "here")] ∧
    answered.run Rehearsal.host ⟨[("v", "here")], .standard, ⟨1, 1⟩⟩ "/" refusing = some d ∧
    (∃ passages, answered.Passed ⟨[("v", "here")], .standard, ⟨1, 1⟩⟩ "/" passages d ∧
      ∀ p ∈ passages, p.isTaken = true → p.Answers (answered.givenValue? (some " ci ") [])) ∧
    questions d.exchanges = [] ∧ d.result.workspace.factNamed? "v" = some (.text "here") := by
  have hgiven : answered.runVariables (some " ci ") [] = .ok [("v", "here")] := by rfl
  have hd : answered.run Rehearsal.host ⟨[("v", "here")], .standard, ⟨1, 1⟩⟩ "/" refusing =
    some _ := rfl
  obtain ⟨_, ⟨passages, hpassed, _, hanswers⟩, hcovered⟩ :=
    asks_unanswered_only hgiven hd
  have hvalue : answered.givenValue? (some " ci ") [] "v" = some "here" :=
    (find?_runVariables hgiven "v").symm
  refine ⟨_, hgiven, hd, ⟨passages, hpassed, hanswers⟩, hcovered ?_, rfl⟩
  intro step hstep name hname
  simp only [answered, asking, List.mem_cons, List.not_mem_nil, or_false] at hstep
  rcases hstep with rfl | rfl
  · cases hname
  · obtain rfl := Option.some.inj hname
    rw [hvalue]
    rfl

end Workflow

end Runbook
