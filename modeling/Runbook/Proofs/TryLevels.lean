import Mathlib.Algebra.Ring.Nat
import Runbook.Proofs.StepTrace
import Runbook.Run.Rehearsal

/-!
The tries of a run step, level by level: its own command is the first level, and each fallback is
one more. Main statement: a level is tried until it succeeds or its retries are used up, the next
one is started just if all tries of it failed, and the last try of all decides what the step comes
to; without endless retries every host brings the step to its end, with no more calls than the
retries allow.
-/

namespace Runbook

open Program (Runs)

/-! ### What is called, and what comes of it -/

def outcome? (e : Exchange Effect.interface) : Option CommandOutcome :=
  match e with
  | ⟨.finish _, o⟩ => some o
  | _ => none

def outcomes (es : RunTrace) : List CommandOutcome := es.filterMap outcome?

@[simp] theorem outcomes_append (es fs : RunTrace) :
    outcomes (es ++ fs) = outcomes es ++ outcomes fs :=
  List.filterMap_append

theorem outcomes_cons_of_none {e : Exchange Effect.interface} (h : outcome? e = none)
    (es : RunTrace) : outcomes (e :: es) = outcomes es :=
  List.filterMap_cons_none h

def AllFailed (os : List CommandOutcome) : Prop := ∀ o ∈ os, o.success = false

section Outcomes

variable {os more : List CommandOutcome} {last : CommandOutcome}

theorem allFailed_append : AllFailed (os ++ more) ↔ AllFailed os ∧ AllFailed more :=
  List.forall_mem_append

theorem allFailed_singleton : AllFailed [last] ↔ last.success = false :=
  List.forall_mem_singleton

/-- Tries after failures: all before the last one failed. -/
theorem allFailed_dropLast_append (h : AllFailed os) (hmore : AllFailed more.dropLast) :
    AllFailed (os ++ more).dropLast := by
  cases more with
  | nil =>
    rw [List.append_nil]
    exact fun o ho => h o (List.dropLast_subset os ho)
  | cons o rest =>
    rw [List.dropLast_append_of_ne_nil (List.cons_ne_nil o rest)]
    exact allFailed_append.mpr ⟨h, hmore⟩

theorem exists_success_iff (hlast : os.getLast? = some last) (h : AllFailed os.dropLast) :
    (∃ o ∈ os, o.success = true) ↔ last.success = true := by
  obtain ⟨front, rfl⟩ := List.getLast?_eq_some_iff.mp hlast
  rw [List.dropLast_concat] at h
  constructor
  · rintro ⟨o, ho, hsuccess⟩
    rcases List.mem_append.mp ho with ho | ho
    · simp [h o ho] at hsuccess
    · rwa [List.mem_singleton.mp ho] at hsuccess
  · intro hsuccess
    exact ⟨last, List.mem_append_right _ List.mem_cons_self, hsuccess⟩

theorem allFailed_iff (hlast : os.getLast? = some last) (h : AllFailed os.dropLast) :
    AllFailed os ↔ last.success = false := by
  rw [← Bool.not_eq_true, ← exists_success_iff hlast h]
  simp [AllFailed]

end Outcomes

namespace RunStep

/-! ### Levels -/

/-- The levels of a run step: its own command, and then its fallbacks. -/
def levels (step : RunStep) : List Fallback :=
  ⟨step.command, step.timeout, step.retry⟩ :: step.fallbacks

/-- The tries of a level after so many retries: all but the last of them failed, there are no more
of them than the retries allow, and if all failed, no retry is left. -/
structure Tried (retry : Retry) (made : Nat) (os : List CommandOutcome) : Prop where
  ne_nil : os ≠ []
  failed : AllFailed os.dropLast
  within : ∀ n, retry = .count n → made + os.length ≤ n.toNat + 1
  exhausted : AllFailed os → ∃ n, retry = .count n ∧ made + os.length = n.toNat + 1

/-- The tries of levels in turn: the first level is tried, and any other one just if all tries of
the level before it failed. -/
structure TriedInTurn (levels : List Fallback) (tried : List (List CommandOutcome)) : Prop where
  tries : ∀ p ∈ levels.zip tried, Tried p.1.retry 0 p.2
  length_le : tried.length ≤ levels.length
  first : levels ≠ [] → tried ≠ []
  next : ∀ j, j + 1 < levels.length →
    (j + 1 < tried.length ↔ ∃ os, tried[j]? = some os ∧ AllFailed os)

section Levels

variable {retry : Retry} {number : UInt32} {made : Nat} {o : CommandOutcome}
  {os : List CommandOutcome} {level : Fallback} {rest : List Fallback}
  {more : List (List CommandOutcome)}

/-- As long as retries are left, the word counts those made. -/
theorem allows_count_iff {n : UInt32} (hnumber : number.toNat = retryNumber made)
    (hmade : made ≤ n.toNat) : (Retry.count n).allows number = true ↔ made < n.toNat := by
  have hword : n.toNat ≤ Word.greatest 32 := Nat.le_pred_of_lt n.toNat_lt
  rw [retryNumber, Nat.min_eq_left (Nat.le_trans hmade hword)] at hnumber
  simp [Retry.allows, UInt32.lt_iff_toNat_lt, hnumber]

theorem Tried.last (h : (o.success || !retry.allows number) = true)
    (hnumber : number.toNat = retryNumber made)
    (hmade : ∀ n, retry = .count n → made ≤ n.toNat) : Tried retry made [o] where
  ne_nil := List.cons_ne_nil o []
  failed := nofun
  within n hn := Nat.add_le_add_right (hmade n hn) 1
  exhausted hfailed := by
    rw [allFailed_singleton.mp hfailed, Bool.false_or] at h
    cases retry with
    | count n =>
      have hle : made ≤ n.toNat := hmade n rfl
      have hnone : ¬ made < n.toNat := by
        rw [← allows_count_iff hnumber hle]
        simpa using h
      exact ⟨n, rfl, by rw [List.length_singleton]; omega⟩
    | forever => simp [Retry.allows] at h

theorem Tried.cons (ho : o.success = false) (h : Tried retry (made + 1) os) :
    Tried retry made (o :: os) where
  ne_nil := List.cons_ne_nil o os
  failed := allFailed_dropLast_append (allFailed_singleton.mpr ho) h.failed
  within n hn := by
    have hle := h.within n hn
    rw [List.length_cons]
    omega
  exhausted hfailed := by
    obtain ⟨n, hn, hlength⟩ := h.exhausted fun x hx => hfailed x (List.mem_cons_of_mem o hx)
    exact ⟨n, hn, by rw [List.length_cons]; omega⟩

theorem TriedInTurn.nil : TriedInTurn [] [] where
  tries := nofun
  length_le := Nat.le_refl 0
  first h := absurd rfl h
  next := nofun

theorem TriedInTurn.settled (h : Tried level.retry 0 os) (hos : ¬ AllFailed os)
    (rest : List Fallback) : TriedInTurn (level :: rest) [os] where
  tries p hp := by
    obtain rfl : p = (level, os) := by simpa using hp
    exact h
  length_le := by simp
  first _ := List.cons_ne_nil os []
  next j _ := by
    cases j with
    | zero => simp [hos]
    | succ j => simp

theorem TriedInTurn.cons (h : Tried level.retry 0 os) (hos : AllFailed os)
    (hmore : TriedInTurn rest more) : TriedInTurn (level :: rest) (os :: more) where
  tries p hp := by
    rcases List.mem_cons.mp hp with rfl | hp
    · exact h
    · exact hmore.tries p hp
  length_le := by simpa using hmore.length_le
  first _ := List.cons_ne_nil os more
  next j hj := by
    rw [List.length_cons, Nat.add_lt_add_iff_right] at hj
    cases j with
    | zero =>
      have hnext : more ≠ [] := hmore.first (List.ne_nil_of_length_pos hj)
      simp [hos, List.length_pos_iff.mpr hnext]
    | succ j => simpa using hmore.next j hj

end Levels

/-! ### Effects -/

/-- What a level asks for: its command and its own time limit, and all else as the step has it. -/
def levelRequest (step : RunStep) (scope : RunScope) (label : StepLabel) (w : Workspace)
    (level : Fallback) : CommandRequest where
  command := Template.substitute w level.command
  shell := step.shell <|> scope.workflow.shell
  directory := scope.directory
  timeout := level.timeout
  mode := step.mode label
  label := { label with text := Template.substitute w level.command }

/-- What comes before a try after some retries, unless it is the first: the retry is recorded, and
the host waits. -/
def retryEffects (scope : RunScope) (label : StepLabel) (made : Nat) : List Effect :=
  if made = 0 then []
  else [.record (.stepRetried label.index label.branch (retryNumber made)
      (scope.backoff.delay made).milliseconds), .pause label (scope.backoff.delay made)]

/-- A command is called, and what came of it is shown if its lines are held back. -/
def callEffects (request : CommandRequest) (o : CommandOutcome) : List Effect :=
  [.start request, .finish request] ++
    if request.mode = .buffered then [.display (.bufferedResult request.label o)] else []

def levelEffects (scope : RunScope) (request : CommandRequest) (made : Nat)
    (os : List CommandOutcome) : List Effect :=
  (os.zipIdx made).flatMap fun (o, i) =>
    retryEffects scope request.label i ++ callEffects request o

/-- What comes before a level, unless it is the first. -/
def fallbackEffects (label : StepLabel) (command : String) (place : Nat) : List Effect :=
  if place = 0 then [] else [.record (.fallbackStarted label.index label.branch place command)]

def effects (step : RunStep) (scope : RunScope) (label : StepLabel) (w : Workspace) (place : Nat)
    (tries : List (Fallback × List CommandOutcome)) : List Effect :=
  (tries.zipIdx place).flatMap fun ((level, os), i) =>
    fallbackEffects label (Template.substitute w level.command) i ++
      levelEffects scope (step.levelRequest scope label w level) 0 os

section Effects

variable {scope : RunScope} {request : CommandRequest} {retry : Retry} {es : RunTrace}
  {last : CommandOutcome}

theorem outcomes_tryTrace (request : CommandRequest) (o : CommandOutcome) :
    outcomes (tryTrace request o) = [o] := by
  unfold tryTrace
  split <;> rfl

theorem map_call_tryTrace (request : CommandRequest) (o : CommandOutcome) :
    (tryTrace request o).map (·.call) = callEffects request o := by
  unfold tryTrace callEffects
  split <;> rfl

theorem Attempted.tried {number : UInt32} (h : Attempted scope request retry number es last)
    (made : Nat) (hnumber : number.toNat = retryNumber made)
    (hmade : ∀ n, retry = .count n → made ≤ n.toNat) :
    Tried retry made (outcomes es) ∧ (outcomes es).getLast? = some last ∧
      retryEffects scope request.label made ++ es.map (·.call) =
        levelEffects scope request made (outcomes es) := by
  induction h generalizing made with
  | @settled number o hover =>
    rw [outcomes_tryTrace]
    refine ⟨.last hover hnumber hmade, rfl, ?_⟩
    rw [map_call_tryTrace]
    simp [levelEffects]
  | @retried number o stamp es last hagain _ ih =>
    rw [Bool.or_eq_false_iff] at hagain
    have hallowed : retry.allows number = true := by simpa using hagain.2
    have hnext := toNat_following_eq hnumber
    obtain ⟨htried, hlast, hcalls⟩ := ih (made + 1) hnext fun n hn => by
      subst hn
      exact (allows_count_iff hnumber (hmade n rfl)).mp hallowed
    have houtcomes : outcomes (tryTrace request o ++
        ⟨.record (retryOccurrence scope request.label (Word.following number)), stamp⟩ ::
        ⟨.pause request.label (scope.backoff.delay (Word.following number).toNat), ()⟩ :: es) =
          o :: outcomes es := by
      rw [outcomes_append, outcomes_tryTrace, outcomes_cons_of_none rfl, outcomes_cons_of_none rfl]
      rfl
    rw [houtcomes]
    refine ⟨.cons hagain.1 htried, ?_, ?_⟩
    · rw [List.getLast?_cons, hlast]
      rfl
    · have hrest : levelEffects scope request made (o :: outcomes es) =
          retryEffects scope request.label made ++ callEffects request o ++
            levelEffects scope request (made + 1) (outcomes es) := rfl
      rw [hrest, ← hcalls, List.map_append, map_call_tryTrace]
      simp [retryEffects, retryOccurrence, hnext, delay_retryNumber]

theorem Attempted.level (h : Attempted scope request retry 0 es last) :
    Tried retry 0 (outcomes es) ∧ (outcomes es).getLast? = some last ∧
      es.map (·.call) = levelEffects scope request 0 (outcomes es) :=
  h.tried 0 rfl fun _ _ => Nat.zero_le _

variable {step : RunStep} {label : StepLabel} {w : Workspace} {place : Nat}
  {fallbacks : List Fallback} {final : CommandOutcome}

theorem effects_cons (f : Fallback) (os : List CommandOutcome)
    (more : List (Fallback × List CommandOutcome)) :
    step.effects scope label w place ((f, os) :: more) =
      fallbackEffects label (Template.substitute w f.command) place ++
        levelEffects scope (step.levelRequest scope label w f) 0 os ++
          step.effects scope label w (place + 1) more := rfl

theorem fallbackEffects_zero (label : StepLabel) (command : String) :
    fallbackEffects label command 0 = [] := rfl

theorem fallbackEffects_of_pos (h : 0 < place) (command : String) :
    fallbackEffects label command place =
      [.record (.fallbackStarted label.index label.branch place command)] :=
  if_neg (Nat.ne_of_gt h)

/-- Levels from a place on that are tried in turn, with the effects of the tries and what they came
to; all tries before the last one failed. -/
def LevelsTaken (step : RunStep) (scope : RunScope) (label : StepLabel) (w : Workspace)
    (place : Nat) (levels : List Fallback) (calls : List Effect) (os : List CommandOutcome) : Prop :=
  ∃ tried, TriedInTurn levels tried ∧ os = tried.flatten ∧ AllFailed os.dropLast ∧
    calls = step.effects scope label w place (levels.zip tried)

section LevelsTaken

variable {f : Fallback} {rest : List Fallback} {o : CommandOutcome}
  (tries : Attempted scope (step.levelRequest scope label w f) f.retry 0 es o)

include tries

theorem LevelsTaken.settled (ho : o.success = true) :
    LevelsTaken step scope label w place (f :: rest)
      (fallbackEffects label (Template.substitute w f.command) place ++ es.map (·.call))
      (outcomes es) := by
  obtain ⟨htried, hlast, hcalls⟩ := tries.level
  have hsuccess : ¬ AllFailed (outcomes es) := by
    simp [allFailed_iff hlast htried.failed, ho]
  refine ⟨[outcomes es], .settled htried hsuccess rest, ?_, htried.failed, ?_⟩
  · rw [List.flatten_singleton]
  · rw [List.zip_cons_cons, effects_cons, hcalls, List.zip_nil_right]
    exact (List.append_nil _).symm

theorem LevelsTaken.cons (ho : o.success = false) {calls : List Effect} {os : List CommandOutcome}
    (hmore : LevelsTaken step scope label w (place + 1) rest calls os) :
    LevelsTaken step scope label w place (f :: rest)
      (fallbackEffects label (Template.substitute w f.command) place ++ es.map (·.call) ++ calls)
      (outcomes es ++ os) := by
  obtain ⟨htried, hlast, hcalls⟩ := tries.level
  have hfailed : AllFailed (outcomes es) := (allFailed_iff hlast htried.failed).mpr ho
  obtain ⟨tried, hturn, rfl, hdrop, rfl⟩ := hmore
  refine ⟨outcomes es :: tried, .cons htried hfailed hturn, rfl,
    allFailed_dropLast_append hfailed hdrop, ?_⟩
  rw [List.zip_cons_cons, effects_cons, hcalls]

end LevelsTaken

/-- The fallbacks of a step, as they were tried; without any, the outcome stays as it was. -/
theorem FellBack.taken
    (h : FellBack scope w (step.request scope label w) last place fallbacks es final)
    (hplace : 0 < place) :
    LevelsTaken step scope label w place fallbacks (es.map (·.call)) (outcomes es) ∧
      final = (outcomes es).getLast?.getD last := by
  generalize hrequest : step.request scope label w = request at h
  induction h with
  | exhausted => exact ⟨⟨[], .nil, rfl, nofun, rfl⟩, rfl⟩
  | @recovered last place f rest stamp es o tries ho =>
    subst hrequest
    have tries : Attempted scope (step.levelRequest scope label w f) f.retry 0 es o := tries
    have htaken : LevelsTaken step scope label w place (f :: rest) _ (outcomes es) :=
      .settled tries ho
    rw [fallbackEffects_of_pos hplace] at htaken
    refine ⟨htaken, ?_⟩
    rw [outcomes_cons_of_none rfl, tries.level.2.1, Option.getD_some]
  | @failed last place f rest stamp es o more final tries ho _ ih =>
    subst hrequest
    have tries : Attempted scope (step.levelRequest scope label w f) f.retry 0 es o := tries
    obtain ⟨hmore, hfinal⟩ := ih (Nat.succ_pos place)
    have htaken := LevelsTaken.cons tries ho hmore
    rw [fallbackEffects_of_pos hplace, List.append_assoc, ← List.map_append, ← outcomes_append]
      at htaken
    refine ⟨htaken, ?_⟩
    rw [outcomes_cons_of_none rfl, outcomes_append, List.getLast?_append, tries.level.2.1, hfinal]
    cases (outcomes more).getLast? <;> rfl

theorem Executed.taken {result : RunStepResult} (h : Executed step scope label w es result) :
    LevelsTaken step scope label w 0 step.levels (es.map (·.call)) (outcomes es) ∧
      (outcomes es).getLast? = some result.outcome := by
  cases h with
  | @captured _ o captured tries ho _ =>
    have tries : Attempted scope (step.levelRequest scope label w
      ⟨step.command, step.timeout, step.retry⟩) step.retry 0 es o := tries
    have htaken : LevelsTaken step scope label w 0 step.levels _ (outcomes es) := .settled tries ho
    rw [fallbackEffects_zero, List.nil_append] at htaken
    exact ⟨htaken, tries.level.2.1⟩
  | @fellBack es o more final tries ho others =>
    have tries : Attempted scope (step.levelRequest scope label w
      ⟨step.command, step.timeout, step.retry⟩) step.retry 0 es o := tries
    obtain ⟨hmore, hfinal⟩ := others.taken Nat.one_pos
    have htaken : LevelsTaken step scope label w 0 step.levels _ _ := .cons tries ho hmore
    rw [fallbackEffects_zero, List.nil_append, ← List.map_append, ← outcomes_append] at htaken
    refine ⟨htaken, ?_⟩
    rw [outcomes_append, List.getLast?_append, tries.level.2.1, hfinal]
    cases (outcomes more).getLast? <;> rfl

end Effects

end RunStep

/-! ### Bounds of calls -/

def Effect.calls : Effect → Nat
  | .start _ => 1
  | _ => 0

def callCount (es : RunTrace) : Nat := (es.map (·.call.calls)).sum

namespace Task

variable {α β : Type} {may : Prop} {n m : Nat}

/-- Whatever the host replies, a task comes to its end, with so many calls at most. An overflow may
stop it if a condition is met. -/
def CallsWithin (may : Prop) : Nat → Task α → Prop
  | _, .done _ => True
  | _, .halted why => why = .overflow ∧ may
  | n, .perform c next => c.calls ≤ n ∧ ∀ reply, CallsWithin may (n - c.calls) (next reply)

theorem callsWithin_pure (n : Nat) (a : α) : CallsWithin may n (pure a) := trivial

theorem callsWithin_computed {c : Computed α} (h : c = .error .overflow → may) :
    CallsWithin may 0 (Program.computed c) := by
  match c with
  | .ok _ => trivial
  | .error .overflow => exact ⟨rfl, h rfl⟩

theorem callsWithin_effect {c : Effect} (h : c.calls ≤ n) : CallsWithin may n (effect c) :=
  ⟨h, fun _ => trivial⟩

theorem CallsWithin.mono {p : Task α} (h : CallsWithin may n p) (hle : n ≤ m) :
    CallsWithin may m p := by
  induction p generalizing n m with
  | done a => trivial
  | halted why => exact h
  | perform c next ih =>
    exact ⟨Nat.le_trans h.1 hle, fun reply => ih reply (h.2 reply) (Nat.sub_le_sub_right hle _)⟩

theorem CallsWithin.bind {p : Task α} {f : α → Task β} (h : CallsWithin may n p)
    (hf : ∀ a, CallsWithin may m (f a)) : CallsWithin may (n + m) (p >>= f) := by
  change CallsWithin may (n + m) (Program.andThen f p)
  induction p generalizing n with
  | done a => exact (hf a).mono (Nat.le_add_left m n)
  | halted why => exact h
  | perform c next ih =>
    obtain ⟨hcalls, hnext⟩ := h
    refine ⟨Nat.le_trans hcalls (Nat.le_add_right n m), fun reply => ?_⟩
    rw [Nat.sub_add_comm hcalls]
    exact ih reply (hnext reply)

theorem CallsWithin.after {p : Task α} {f : α → Task β} (h : CallsWithin may 0 p)
    (hf : ∀ a, CallsWithin may n (f a)) : CallsWithin may n (p >>= f) := by
  simpa using h.bind hf

theorem CallsWithin.before {p : Task α} {f : α → Task β} (h : CallsWithin may n p)
    (hf : ∀ a, CallsWithin may 0 (f a)) : CallsWithin may n (p >>= f) := h.bind hf

theorem callsWithin_command (request : CommandRequest) : CallsWithin may 1 (command request) :=
  (callsWithin_effect (Nat.le_refl 1)).before fun _ => callsWithin_effect (Nat.le_refl 0)

theorem callsWithin_record (o : Occurrence) : CallsWithin may 0 (record o) :=
  (callsWithin_effect (Nat.le_refl 0)).after fun _ => callsWithin_pure 0 ()

/-- Every host brings a task within bounds to its end. -/
theorem CallsWithin.ended {σ : Type} {p : Task α} (h : CallsWithin may n p) (host : RunHost σ)
    (s : σ) : callCount (p.ended host s).exchanges ≤ n ∧
      ((∃ a, (p.ended host s).result = .ok a) ∨
        (p.ended host s).result = .error .overflow ∧ may) := by
  induction p generalizing n s with
  | done a => exact ⟨Nat.zero_le n, .inl ⟨a, rfl⟩⟩
  | halted why =>
    obtain ⟨rfl, hmay⟩ := h
    exact ⟨Nat.zero_le n, .inr ⟨rfl, hmay⟩⟩
  | perform c next ih =>
    obtain ⟨hcalls, hnext⟩ := h
    obtain ⟨hcount, hresult⟩ := ih (host s c).1 (hnext (host s c).1) (host s c).2
    refine ⟨?_, hresult⟩
    change c.calls + callCount ((next (host s c).1).ended host (host s c).2).exchanges ≤ n
    omega

end Task

namespace RunStep

open Runbook.Task (CallsWithin)

variable {scope : RunScope} {request : CommandRequest} {may : Prop}

/-- The tries that are left: one more than the retries that are left. -/
theorem callsWithin_attempt {n number : UInt32} (made : Nat) {bound : Nat}
    (hnumber : number.toNat = retryNumber made) (hmade : made ≤ n.toNat)
    (hbound : made + bound = n.toNat + 1) :
    CallsWithin may bound (attempt scope request (.count n) number bound) := by
  induction bound generalizing number made with
  | zero => omega
  | succ bound ih =>
    have hrest : ∀ o : CommandOutcome, CallsWithin may bound
        (if o.success || !Retry.allows (.count n) number then pure o
        else do
          Task.record (.stepRetried request.label.index request.label.branch
            (Word.following number).toNat
            (scope.backoff.delay (Word.following number).toNat).milliseconds)
          Task.pause request.label (scope.backoff.delay (Word.following number).toNat)
          attempt scope request (.count n) (Word.following number) bound) := by
      intro o
      split
      case isTrue => exact Task.callsWithin_pure bound o
      case isFalse hagain =>
        have hlt : made < n.toNat := by
          simp only [Bool.or_eq_true, not_or, Bool.not_eq_true', Bool.not_eq_false] at hagain
          exact (allows_count_iff hnumber hmade).mp hagain.2
        exact (Task.callsWithin_record _).after fun _ =>
          (Task.callsWithin_effect (Nat.le_refl 0)).after fun _ =>
            ih (made + 1) (toNat_following_eq hnumber) hlt (by omega)
    have htry : CallsWithin may (1 + bound)
        (attempt scope request (.count n) number (bound + 1)) := by
      refine (Task.callsWithin_command request).bind fun o => ?_
      by_cases hmode : request.mode = .buffered
      · simp only [hmode, if_true]
        exact (Task.callsWithin_effect (Nat.le_refl 0)).after fun _ => hrest o
      · simp only [hmode, if_false]
        exact hrest o
    exact htry.mono (Nat.le_of_eq (Nat.add_comm 1 bound))

theorem callsWithin_attempts {retry : Retry} {n : UInt32} (h : retry = .count n) :
    CallsWithin may (1 + n.toNat) (attempts scope request retry) := by
  subst h
  rw [Nat.add_comm]
  exact callsWithin_attempt 0 rfl (Nat.zero_le n.toNat) (Nat.zero_add (n.toNat + 1))

theorem callsWithin_fallBack {w : Workspace} {fallbacks : List Fallback} {retries : List UInt32}
    (h : fallbacks.map (·.retry) = retries.map .count) (last : CommandOutcome) (level : Nat) :
    CallsWithin may (retries.map (1 + ·.toNat)).sum
      (fallBack scope w request last level fallbacks) := by
  induction fallbacks generalizing retries last level with
  | nil => exact Task.callsWithin_pure _ last
  | cons f rest ih =>
    cases retries with
    | nil => cases h
    | cons n others =>
      obtain ⟨hfirst, hrest⟩ := List.cons.inj h
      rw [List.map_cons, List.sum_cons]
      refine (Task.callsWithin_record _).after fun _ =>
        (callsWithin_attempts hfirst).bind fun o => ?_
      split
      · exact Task.callsWithin_pure _ o
      · exact ih hrest o (level + 1)

theorem callsWithin_take {step : RunStep} {retries : List UInt32}
    (h : step.levels.map (·.retry) = retries.map .count) (label : StepLabel) (slot : Nat)
    (w : Workspace) :
    CallsWithin (∃ lines, applyCaptures step.captures lines w = .error .overflow)
      (retries.map (1 + ·.toNat)).sum (step.take scope label slot w) := by
  cases retries with
  | nil => cases h
  | cons n others =>
    obtain ⟨hfirst, hrest⟩ := List.cons.inj h
    have hexecute : CallsWithin (∃ lines, applyCaptures step.captures lines w = .error .overflow)
        ((n :: others).map (1 + ·.toNat)).sum (step.execute scope label w) := by
      rw [List.map_cons, List.sum_cons]
      refine (callsWithin_attempts hfirst).bind fun o => ?_
      split
      · refine CallsWithin.after (Task.callsWithin_computed fun hoverflow => ?_) fun _ =>
          Task.callsWithin_pure _ _
        exact ⟨o.stdout, hoverflow⟩
      · exact (callsWithin_fallBack hrest o 1).bind fun final => Task.callsWithin_pure 0 _
    refine (Task.callsWithin_effect (Nat.le_refl 0)).after fun _ => hexecute.before fun result => ?_
    refine CallsWithin.after ?_ fun milliseconds => ?_
    · exact (Task.callsWithin_effect (Nat.le_refl 0)).after fun _ => Task.callsWithin_pure 0 _
    · exact (Task.callsWithin_record _).after fun _ => Task.callsWithin_pure 0 _

/-! ### Run steps -/

/-- A command with one retry, a fallback that is retried for ever with a time limit of its own, and
one after that. -/
def persevering : RunStep :=
  ⟨"first", none, .count 1, none, false, [⟨"second", some (.ofSeconds 5), .forever⟩,
    ⟨"third", none, .never⟩], []⟩

def perseveringScope : RunScope :=
  ⟨⟨none, none, none, [], [⟨none, .action (.run persevering)⟩], ⟨none, none, []⟩⟩, [], none,
    .standard, 3⟩

def perseveringLabel : StepLabel := ⟨0, none, none, "run", "first", false⟩

/-- All commands fail, but the second one fails only once. -/
def recovering : Rehearsal :=
  ⟨[("second", [⟨false, some 2, [], [], false, .zero⟩, ⟨true, some 0, [], [], false, .zero⟩])],
    ⟨false, some 1, [], [], false, .zero⟩, [], [], .zero, []⟩

end RunStep

end Runbook
