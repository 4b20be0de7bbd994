import Runbook.Run.Workflow
import Runbook.Proofs.Weaving

/-!
Traces of steps: the exchanges with the host that the tries of a command, its fallbacks, a run step,
a question and a condition come down to.
-/

namespace Runbook

open Program (Runs)

abbrev RunTrace := List (Exchange Effect.interface)

theorem filterMap_cons_toList {E F : Type} (f : E → Option F) (e : E) (es : List E) :
    (e :: es).filterMap f = (f e).toList ++ es.filterMap f := by
  cases h : f e <;> simp [h]

def occurrence? (e : Exchange Effect.interface) : Option Occurrence :=
  match e with
  | ⟨.record o, _⟩ => some o
  | _ => none

def recorded (es : RunTrace) : List Occurrence := es.filterMap occurrence?

@[simp] theorem recorded_nil : recorded [] = [] := rfl

@[simp] theorem recorded_append (es fs : RunTrace) : recorded (es ++ fs) = recorded es ++ recorded fs :=
  List.filterMap_append

@[simp] theorem recorded_record (o : Occurrence) (stamp : Stamp) (es : RunTrace) :
    recorded (⟨.record o, stamp⟩ :: es) = o :: recorded es := rfl

theorem recorded_cons_of_none {e : Exchange Effect.interface} (h : occurrence? e = none)
    (es : RunTrace) : recorded (e :: es) = recorded es :=
  List.filterMap_cons_none h

theorem recorded_flatten (blocks : List RunTrace) :
    recorded blocks.flatten = blocks.flatMap recorded := by
  induction blocks with
  | nil => rfl
  | cons es rest ih => rw [List.flatten_cons, recorded_append, ih, List.flatMap_cons]

/-! ### Single effects -/

namespace Task

theorem runs_record {o : Occurrence} {es : RunTrace} {u : Unit} (h : Runs (record o) es u) :
    ∃ stamp, es = [⟨.record o, stamp⟩] := by
  obtain ⟨stamp, rest, rfl, rfl, _⟩ := h
  exact ⟨stamp, rfl⟩

theorem runs_display {d : Display} {es : RunTrace} {u : Unit} (h : Runs (display d) es u) :
    es = [⟨.display d, ()⟩] := by
  obtain ⟨_, rest, rfl, rfl, _⟩ := h
  rfl

theorem runs_noting {α : Type} {d : Display} {o : Occurrence} {a r : α} {es : RunTrace}
    (h : Runs (do
      display d
      record o
      return a) es r) : ∃ stamp, es = [⟨.display d, ()⟩, ⟨.record o, stamp⟩] ∧ r = a := by
  obtain ⟨shown, _, rest, rfl, hshown, hrest⟩ := Program.runs_bind.mp h
  obtain rfl := runs_display hshown
  obtain ⟨noted, _, _, rfl, hnoted, rfl, rfl⟩ := Program.runs_bind.mp hrest
  obtain ⟨stamp, rfl⟩ := runs_record hnoted
  exact ⟨stamp, rfl, rfl⟩

theorem runs_check {path : FilePath} {es : RunTrace} {b : Bool} (h : Runs (check path) es b) :
    es = [⟨.check path, b⟩] := by
  obtain ⟨_, rest, rfl, rfl, rfl⟩ := h
  rfl

theorem runs_command {request : CommandRequest} {es : RunTrace} {o : CommandOutcome}
    (h : Runs (command request) es o) : es = [⟨.start request, ()⟩, ⟨.finish request, o⟩] := by
  obtain ⟨_, rest, rfl, _, _, rfl, rfl, rfl⟩ := h
  rfl

theorem runs_ask {question : Question} {es : RunTrace} {answer : Except String String}
    (h : Runs (ask question) es answer) : es = [⟨.ask question, answer⟩] := by
  obtain ⟨_, rest, rfl, rfl, rfl⟩ := h
  rfl

theorem runs_pause {label : StepLabel} {delay : Duration} {es : RunTrace} {u : Unit}
    (h : Runs (pause label delay) es u) : es = [⟨.pause label delay, ()⟩] := by
  obtain ⟨_, rest, rfl, rfl, _⟩ := h
  rfl

theorem runs_clock {es : RunTrace} {stamp : Stamp} (h : Runs clock es stamp) :
    es = [⟨.clock, stamp⟩] := by
  obtain ⟨_, rest, rfl, rfl, rfl⟩ := h
  rfl

theorem runs_pick {places : List Nat} {es : RunTrace} {place : Nat} (h : Runs (pick places) es place) :
    es = [⟨.pick places, place⟩] := by
  obtain ⟨_, rest, rfl, rfl, rfl⟩ := h
  rfl

theorem runs_millisecondsSince {start : Timestamp} {es : RunTrace} {n : Nat}
    (h : Runs (millisecondsSince start) es n) : ∃ stamp, es = [⟨.clock, stamp⟩] := by
  obtain ⟨stamp, rest, rfl, rfl, _⟩ := h
  exact ⟨stamp, rfl⟩

end Task

/-! ### Conditions -/

def IsCheck (e : Exchange Effect.interface) : Prop := ∃ path b, e = ⟨.check path, b⟩

theorem IsCheck.occurrence?_eq_none {e : Exchange Effect.interface} (h : IsCheck e) :
    occurrence? e = none := by
  obtain ⟨path, b, rfl⟩ := h
  rfl

namespace Condition

variable {w : Workspace} {root : Option FilePath}

mutual

/-- The truth of a condition takes nothing but lookups of files. -/
theorem isCheck_of_runs_evaluate (c : Condition) {es : RunTrace} {b : Bool}
    (h : Runs (evaluate w (fun path => Task.check (located root path)) c) es b) :
    ∀ e ∈ es, IsCheck e := by
  cases c with
  | fileExists path =>
    obtain rfl := Task.runs_check h
    simpa using ⟨_, _, rfl⟩
  | varExists name => obtain ⟨rfl, _⟩ := h; simp
  | varEquals expected => obtain ⟨rfl, _⟩ := h; simp
  | hasVar name => obtain ⟨rfl, _⟩ := h; simp
  | factStatus fact expected => obtain ⟨rfl, _⟩ := h; simp
  | lastStep success => obtain ⟨rfl, _⟩ := h; simp
  | choiceMade option => obtain ⟨rfl, _⟩ := h; simp
  | all conditions => exact isCheck_of_runs_evaluateAll conditions h
  | any conditions => exact isCheck_of_runs_evaluateAny conditions h
  | not condition =>
    obtain ⟨front, truth, back, rfl, hfront, rfl, _⟩ := Program.runs_bind.mp h
    simpa using isCheck_of_runs_evaluate condition hfront

theorem isCheck_of_runs_evaluateAll (cs : List Condition) {es : RunTrace} {b : Bool}
    (h : Runs (evaluateAll w (fun path => Task.check (located root path)) cs) es b) :
    ∀ e ∈ es, IsCheck e := by
  cases cs with
  | nil => obtain ⟨rfl, _⟩ := h; simp
  | cons c rest =>
    obtain ⟨front, truth, back, rfl, hfront, hback⟩ := Program.runs_bind.mp h
    have hc := isCheck_of_runs_evaluate c hfront
    cases truth with
    | true =>
      have hrest := isCheck_of_runs_evaluateAll rest hback
      exact fun e he => (List.mem_append.mp he).elim (hc e) (hrest e)
    | false =>
      obtain ⟨rfl, _⟩ := hback
      simpa using hc

theorem isCheck_of_runs_evaluateAny (cs : List Condition) {es : RunTrace} {b : Bool}
    (h : Runs (evaluateAny w (fun path => Task.check (located root path)) cs) es b) :
    ∀ e ∈ es, IsCheck e := by
  cases cs with
  | nil => obtain ⟨rfl, _⟩ := h; simp
  | cons c rest =>
    obtain ⟨front, truth, back, rfl, hfront, hback⟩ := Program.runs_bind.mp h
    have hc := isCheck_of_runs_evaluate c hfront
    cases truth with
    | true =>
      obtain ⟨rfl, _⟩ := hback
      simpa using hc
    | false =>
      have hrest := isCheck_of_runs_evaluateAny rest hback
      exact fun e he => (List.mem_append.mp he).elim (hc e) (hrest e)

end

end Condition

namespace Step

theorem isCheck_of_runs_isDue {guard : Option Condition} {scope : RunScope} {w : Workspace}
    {es : RunTrace} {due : Bool} (h : Runs (isDue guard scope w) es due) : ∀ e ∈ es, IsCheck e := by
  cases guard with
  | none =>
    obtain ⟨rfl, _⟩ := h
    simp
  | some c => exact Condition.isCheck_of_runs_evaluate c h

end Step

/-! ### Run steps -/

namespace RunStep

variable {scope : RunScope} {request : CommandRequest} {retry : Retry}

/-- The exchanges of one try of a command. -/
def tryTrace (request : CommandRequest) (o : CommandOutcome) : RunTrace :=
  [⟨.start request, ()⟩, ⟨.finish request, o⟩] ++
    if request.mode = .buffered then [⟨.display (.bufferedResult request.label o), ()⟩] else []

/-- The number that a retry is recorded with: a word, which stays at the greatest one. -/
def retryNumber (retry : Nat) : Nat := min retry (Word.greatest 32)

theorem toNat_following_eq {number : UInt32} {made : Nat} (h : number.toNat = retryNumber made) :
    (Word.following number).toNat = retryNumber (made + 1) := by
  rw [Word.toNat_following, h, retryNumber, retryNumber]
  omega

theorem delay_retryNumber (b : Backoff) (retry : Nat) :
    b.delay (retryNumber retry) = b.delay retry := by
  have hfactor : Backoff.factor (retryNumber retry) = Backoff.factor retry := by
    by_cases hword : retry ≤ Word.greatest 32
    · rw [retryNumber, Nat.min_eq_left hword]
    · have hgreatest : ¬ Word.greatest 32 ≤ 32 := by decide
      have hretry : ¬ retry ≤ 32 := by omega
      rw [retryNumber, Nat.min_eq_right (Nat.le_of_not_le hword), Backoff.factor,
        if_neg hgreatest, Backoff.factor, if_neg hretry]
  rw [Backoff.delay, Backoff.delay, hfactor]

def retryOccurrence (scope : RunScope) (label : StepLabel) (number : UInt32) : Occurrence :=
  .stepRetried label.index label.branch number.toNat
    (scope.backoff.delay number.toNat).milliseconds

/-- The tries of a command after some retries: the last one succeeds or no retry is left for it. -/
inductive Attempted (scope : RunScope) (request : CommandRequest) (retry : Retry) :
    UInt32 → RunTrace → CommandOutcome → Prop where
  | settled {made o} (h : (o.success || !retry.allows made) = true) :
    Attempted scope request retry made (tryTrace request o) o
  | retried {made o stamp es last} (h : (o.success || !retry.allows made) = false)
      (more : Attempted scope request retry (Word.following made) es last) :
    Attempted scope request retry made (tryTrace request o ++
      ⟨.record (retryOccurrence scope request.label (Word.following made)), stamp⟩ ::
      ⟨.pause request.label (scope.backoff.delay (Word.following made).toNat), ()⟩ :: es) last

theorem runs_try {α : Type} {next : CommandOutcome → Task α} {es : RunTrace} {a : α}
    (h : Runs (do
      let o ← Task.command request
      if request.mode = .buffered then Task.display (.bufferedResult request.label o)
      next o) es a) : ∃ o back, es = tryTrace request o ++ back ∧ Runs (next o) back a := by
  obtain ⟨command, o, tail, rfl, hcommand, htail⟩ := Program.runs_bind.mp h
  obtain rfl := Task.runs_command hcommand
  by_cases hmode : request.mode = .buffered
  · simp only [hmode, if_true] at htail
    obtain ⟨shown, _, back, rfl, hshown, hback⟩ := Program.runs_bind.mp htail
    obtain rfl := Task.runs_display hshown
    exact ⟨o, back, by simp [tryTrace, hmode], hback⟩
  · simp only [hmode, if_false] at htail
    exact ⟨o, tail, by simp [tryTrace, hmode], htail⟩

theorem attempted_of_runs {made : UInt32} {bound : Nat} {es : RunTrace} {last : CommandOutcome}
    (h : Runs (attempt scope request retry made bound) es last) :
    Attempted scope request retry made es last := by
  induction bound generalizing made es with
  | zero => exact h.elim
  | succ bound ih =>
    obtain ⟨o, back, rfl, hback⟩ := runs_try h
    cases hover : o.success || !retry.allows made with
    | true =>
      simp only [hover, if_true] at hback
      obtain ⟨rfl, rfl⟩ := hback
      simpa using .settled hover
    | false =>
      simp only [hover, Bool.false_eq_true, if_false] at hback
      obtain ⟨noted, _, rest, rfl, hnoted, hrest⟩ := Program.runs_bind.mp hback
      obtain ⟨stamp, rfl⟩ := Task.runs_record hnoted
      obtain ⟨paused, _, more, rfl, hpaused, hmore⟩ := Program.runs_bind.mp hrest
      obtain rfl := Task.runs_pause hpaused
      exact .retried hover (ih hmore)

/-- The fallbacks of a level and those after it, tried until one of them succeeds. -/
inductive FellBack (scope : RunScope) (w : Workspace) (request : CommandRequest) :
    CommandOutcome → Nat → List Fallback → RunTrace → CommandOutcome → Prop where
  | exhausted {last level} : FellBack scope w request last level [] [] last
  | recovered {last level f rest stamp es o}
      (tries : Attempted scope { withCommand request (Template.substitute w f.command) with
        timeout := f.timeout } f.retry 0 es o) (h : o.success = true) :
    FellBack scope w request last level (f :: rest)
      (⟨.record (.fallbackStarted request.label.index request.label.branch level
        (Template.substitute w f.command)), stamp⟩ :: es) o
  | failed {last level f rest stamp es o more final}
      (tries : Attempted scope { withCommand request (Template.substitute w f.command) with
        timeout := f.timeout } f.retry 0 es o) (h : o.success = false)
      (others : FellBack scope w request o (level + 1) rest more final) :
    FellBack scope w request last level (f :: rest)
      (⟨.record (.fallbackStarted request.label.index request.label.branch level
        (Template.substitute w f.command)), stamp⟩ :: (es ++ more)) final

theorem fellBack_of_runs {w : Workspace} {last final : CommandOutcome} {level : Nat}
    {fallbacks : List Fallback} {es : RunTrace}
    (h : Runs (fallBack scope w request last level fallbacks) es final) :
    FellBack scope w request last level fallbacks es final := by
  induction fallbacks generalizing last level es with
  | nil =>
    obtain ⟨rfl, rfl⟩ := h
    exact .exhausted
  | cons f rest ih =>
    obtain ⟨noted, _, tail, rfl, hnoted, htail⟩ := Program.runs_bind.mp h
    obtain ⟨stamp, rfl⟩ := Task.runs_record hnoted
    obtain ⟨tries, o, back, rfl, htries, hback⟩ := Program.runs_bind.mp htail
    cases ho : o.success with
    | true =>
      simp only [ho, if_true] at hback
      obtain ⟨rfl, rfl⟩ := hback
      simpa using .recovered (attempted_of_runs htries) ho
    | false =>
      simp only [ho, Bool.false_eq_true, if_false] at hback
      rw [List.singleton_append]
      exact .failed (attempted_of_runs htries) ho (ih hback)

/-- What the first of some rules takes from the lines, and then what the others take. -/
theorem applyCaptures_cons_eq_ok {rule : CaptureRule} {rules : List CaptureRule}
    {lines : List String} {w captured : Workspace} :
    applyCaptures (rule :: rules) lines w = .ok captured ↔
      ∃ value?, rule.extraction.apply lines = .ok value? ∧
        applyCaptures rules lines (value?.elim w (w.setVariable rule.variableName)) =
          .ok captured := by
  simp only [applyCaptures, List.foldlM_cons]
  cases rule.extraction.apply lines with
  | error e => exact ⟨nofun, fun ⟨_, h, _⟩ => nomatch h⟩
  | ok value? =>
    constructor
    · intro h
      exact ⟨value?, rfl, by cases value? <;> exact h⟩
    · rintro ⟨_, ⟨⟩, h⟩
      cases value? <;> exact h

/-- Captures set variables one after the other, so they keep what setting a variable keeps. -/
theorem applyCaptures_induction {motive : Workspace → Prop} {w captured : Workspace} (h : motive w)
    (hset : ∀ v name value, motive v → motive (v.setVariable name value))
    {rules : List CaptureRule} {lines : List String}
    (hcaptured : applyCaptures rules lines w = .ok captured) : motive captured := by
  induction rules generalizing w with
  | nil =>
    obtain rfl := Except.ok.inj hcaptured
    exact h
  | cons rule rest ih =>
    obtain ⟨value?, -, hrest⟩ := applyCaptures_cons_eq_ok.mp hcaptured
    cases value? with
    | none => exact ih h hrest
    | some value => exact ih (hset w rule.variableName value h) hrest

/-- A run step: its own command, whose lines are captured, or else its fallbacks. -/
inductive Executed (step : RunStep) (scope : RunScope) (label : StepLabel) (w : Workspace) :
    RunTrace → RunStepResult → Prop where
  | captured {es o captured}
      (tries : Attempted scope (step.request scope label w) step.retry 0 es o)
      (h : o.success = true) (hcaptured : applyCaptures step.captures o.stdout w = .ok captured) :
    Executed step scope label w es ⟨o, captured⟩
  | fellBack {es o more final}
      (tries : Attempted scope (step.request scope label w) step.retry 0 es o)
      (h : o.success = false)
      (others : FellBack scope w (step.request scope label w) o 1 step.fallbacks more final) :
    Executed step scope label w (es ++ more) ⟨final, w⟩

theorem executed_of_runs {step : RunStep} {label : StepLabel} {w : Workspace} {es : RunTrace}
    {result : RunStepResult} (h : Runs (step.execute scope label w) es result) :
    Executed step scope label w es result := by
  obtain ⟨tries, o, tail, rfl, htries, htail⟩ := Program.runs_bind.mp h
  cases ho : o.success with
  | true =>
    simp only [ho, if_true] at htail
    obtain ⟨none, captured, back, rfl, hcomputed, rfl, rfl⟩ := Program.runs_bind.mp htail
    obtain ⟨rfl, hcaptured⟩ := Program.runs_computed.mp hcomputed
    simpa using .captured (attempted_of_runs htries) ho hcaptured
  | false =>
    simp only [ho, Bool.false_eq_true, if_false] at htail
    obtain ⟨more, final, back, rfl, hmore, rfl, rfl⟩ := Program.runs_bind.mp htail
    simpa using .fellBack (attempted_of_runs htries) ho (fellBack_of_runs hmore)

/-- A run step with its closing: what it is executed through stands between two looks at the clock,
and its outcome is recorded after them. -/
theorem executed_of_runs_take {step : RunStep} {label : StepLabel} {slot : Nat} {w : Workspace}
    {es : RunTrace} {result : RunStepResult} (h : Runs (step.take scope label slot w) es result) :
    ∃ started inner final finished milliseconds stamp,
      es = ⟨.clock, started⟩ :: (inner ++ [⟨.clock, finished⟩, ⟨.record (closing label
        (step.request scope label w).command final.outcome milliseconds), stamp⟩]) ∧
      Executed step scope label w inner final ∧
      result = ⟨final.outcome,
        final.workspace.setOutcome slot ⟨final.outcome.success, final.outcome.exitCode⟩⟩ := by
  obtain ⟨clock, started, tail, rfl, hclock, htail⟩ := Program.runs_bind.mp h
  obtain rfl := Task.runs_clock hclock
  obtain ⟨inner, final, rest, rfl, hinner, hrest⟩ := Program.runs_bind.mp htail
  obtain ⟨since, milliseconds, back, rfl, hsince, hback⟩ := Program.runs_bind.mp hrest
  obtain ⟨finished, rfl⟩ := Task.runs_millisecondsSince hsince
  obtain ⟨noted, _, _, rfl, hnoted, rfl, rfl⟩ := Program.runs_bind.mp hback
  obtain ⟨stamp, rfl⟩ := Task.runs_record hnoted
  exact ⟨started, inner, final, finished, milliseconds, stamp, by simp, executed_of_runs hinner,
    rfl⟩

end RunStep

/-! ### Questions -/

namespace Step

/-- A value that is given is not asked for; else the question is all that there is. -/
theorem exchanges_of_runs_valueOrAnswer {scope : RunScope} {name : String} {question : Question}
    {es : RunTrace} {answer : Except String String}
    (h : Runs (valueOrAnswer scope name question) es answer) :
    match scope.given.find? name with
    | some value => es = [] ∧ answer = .ok value
    | none => es = [⟨.ask question, answer⟩] := by
  unfold valueOrAnswer at h
  cases hgiven : scope.given.find? name with
  | none =>
    rw [hgiven] at h
    exact Task.runs_ask h
  | some value =>
    rw [hgiven] at h
    exact h

theorem runs_complete {label : StepLabel} {resolved : ResolvedValue} {start : Timestamp}
    {w : Workspace} {es : RunTrace} {e : StepEnd} (h : Runs (complete label resolved start w) es e) :
    ∃ finished milliseconds stamp, es = [⟨.clock, finished⟩, ⟨.record
      (.stepCompleted label.index none label.kind (some resolved) none milliseconds), stamp⟩] ∧
      e = ⟨none, w.setOutcome label.index ⟨true, none⟩⟩ := by
  obtain ⟨since, milliseconds, tail, rfl, hsince, htail⟩ := Program.runs_bind.mp h
  obtain ⟨finished, rfl⟩ := Task.runs_millisecondsSince hsince
  obtain ⟨noted, _, _, rfl, hnoted, rfl, rfl⟩ := Program.runs_bind.mp htail
  obtain ⟨stamp, rfl⟩ := Task.runs_record hnoted
  exact ⟨finished, milliseconds, stamp, rfl, rfl⟩

theorem runs_unanswered {label : StepLabel} {cause : String} {start : Timestamp} {w : Workspace}
    {es : RunTrace} {e : StepEnd} (h : Runs (unanswered label cause start w) es e) :
    ∃ finished milliseconds stamp, es = [⟨.clock, finished⟩, ⟨.record
      (.stepFailed label.index none label.kind none none cause milliseconds), stamp⟩] ∧
      e = ⟨some (label.name ++ " failed: " ++ cause), w⟩ := by
  obtain ⟨since, milliseconds, tail, rfl, hsince, htail⟩ := Program.runs_bind.mp h
  obtain ⟨finished, rfl⟩ := Task.runs_millisecondsSince hsince
  obtain ⟨noted, _, _, rfl, hnoted, rfl, rfl⟩ := Program.runs_bind.mp htail
  obtain ⟨stamp, rfl⟩ := Task.runs_record hnoted
  exact ⟨finished, milliseconds, stamp, rfl, rfl⟩

section Questions

variable {scope : RunScope} {label : StepLabel} {name : String} {question : Question}
  {w : Workspace} (make : String → ResolvedValue) (bound : String → Workspace) {es : RunTrace}
  {e : StepEnd}

/-- What a question comes down to: the question is asked if no value is given for its name, and then
the answer, or the cause for which there is none, is recorded. -/
theorem exchanges_of_runs_question (h : Runs (do
      let start ← Task.clock
      match ← valueOrAnswer scope name question with
      | .ok value => complete label (make value) start.time (bound value)
      | .error cause => unanswered label cause start.time w) es e) :
    ∃ started asked answer finished o stamp,
      es = ⟨.clock, started⟩ :: (asked ++ [⟨.clock, finished⟩, ⟨.record o, stamp⟩]) ∧
      (match scope.given.find? name with
      | some value => asked = [] ∧ answer = .ok value
      | none => asked = [⟨.ask question, answer⟩]) ∧
      match answer with
      | .ok value =>
        (∃ milliseconds, o =
          .stepCompleted label.index none label.kind (some (make value)) none milliseconds) ∧
        e = ⟨none, (bound value).setOutcome label.index ⟨true, none⟩⟩
      | .error cause =>
        (∃ milliseconds, o =
          .stepFailed label.index none label.kind none none cause milliseconds) ∧
        e = ⟨some (label.name ++ " failed: " ++ cause), w⟩ := by
  obtain ⟨clock, started, tail, rfl, hclock, htail⟩ := Program.runs_bind.mp h
  obtain rfl := Task.runs_clock hclock
  obtain ⟨asked, answer, back, rfl, hasked, hback⟩ := Program.runs_bind.mp htail
  have hquestion := exchanges_of_runs_valueOrAnswer hasked
  cases answer with
  | ok value =>
    obtain ⟨finished, milliseconds, stamp, rfl, rfl⟩ := runs_complete hback
    exact ⟨started, asked, .ok value, finished, _, stamp, rfl, hquestion, ⟨milliseconds, rfl⟩, rfl⟩
  | error cause =>
    obtain ⟨finished, milliseconds, stamp, rfl, rfl⟩ := runs_unanswered hback
    exact ⟨started, asked, .error cause, finished, _, stamp, rfl, hquestion, ⟨milliseconds, rfl⟩,
      rfl⟩

/-- A question ends in one event: the answer, or the cause for which there is none. -/
theorem recorded_of_runs_question (h : Runs (do
      let start ← Task.clock
      match ← valueOrAnswer scope name question with
      | .ok value => complete label (make value) start.time (bound value)
      | .error cause => unanswered label cause start.time w) es e) :
    (∃ value milliseconds, recorded es =
      [.stepCompleted label.index none label.kind (some (make value)) none milliseconds] ∧
      e = ⟨none, (bound value).setOutcome label.index ⟨true, none⟩⟩) ∨
    ∃ cause milliseconds, recorded es =
      [.stepFailed label.index none label.kind none none cause milliseconds] ∧
      e = ⟨some (label.name ++ " failed: " ++ cause), w⟩ := by
  obtain ⟨started, asked, answer, finished, o, stamp, rfl, hquestion, hend⟩ :=
    exchanges_of_runs_question make bound h
  have hasked : recorded asked = [] := by
    split at hquestion
    · rw [hquestion.1, recorded_nil]
    · rw [hquestion]
      rfl
  rw [recorded_cons_of_none rfl, recorded_append, hasked, recorded_cons_of_none rfl,
    recorded_record]
  cases answer with
  | ok value =>
    obtain ⟨⟨milliseconds, rfl⟩, he⟩ := hend
    exact .inl ⟨value, milliseconds, rfl, he⟩
  | error cause =>
    obtain ⟨⟨milliseconds, rfl⟩, he⟩ := hend
    exact .inr ⟨cause, milliseconds, rfl, he⟩

end Questions

end Step

end Runbook
