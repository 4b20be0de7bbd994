import Runbook.Run.Workflow

/-!
Tasks that do not look at the time. Two tasks are alike for a branch if they make the same calls,
all of them for that branch, other than for the time that goes into an event, and go on alike
whatever time they are told. Main statement: the task of a branch is alike itself.
-/

namespace Runbook

namespace Occurrence

def branch? : Occurrence → Option Nat
  | .stepSkipped _ branch => branch
  | .stepCompleted _ branch .. => branch
  | .stepFailed _ branch .. => branch
  | .stepRetried _ branch .. => branch
  | .fallbackStarted _ branch .. => branch
  | _ => none

def untimed : Occurrence → Occurrence
  | .stepCompleted step branch kind resolved code _ =>
    .stepCompleted step branch kind resolved code 0
  | .stepFailed step branch kind resolved code error _ =>
    .stepFailed step branch kind resolved code error 0
  | o => o

@[simp] theorem branch?_untimed (o : Occurrence) : o.untimed.branch? = o.branch? := by
  cases o <;> rfl

end Occurrence

def Effect.KeepsTo (branch : Nat) : Effect → Prop
  | .display _ => True
  | .check _ => True
  | .start request => request.label.branch = some branch
  | .finish request => request.label.branch = some branch
  | .pause label _ => label.branch = some branch
  | _ => False

namespace Task

variable {α β : Type} {branch : Nat}

/-- The tasks of a branch differ in nothing but times. -/
inductive Alike (branch : Nat) : Task α → Task α → Prop
  | done (a : α) : Alike branch (.done a) (.done a)
  | halted {why} : Alike branch (.halted why) (.halted why)
  | record {o o' : Occurrence} {next next' : Stamp → Task α} (ho : o.branch? = some branch)
      (huntimed : o'.untimed = o.untimed)
      (hnext : ∀ stamp stamp', Alike branch (next stamp) (next' stamp')) :
    Alike branch (.perform (.record o) next) (.perform (.record o') next')
  | clock {next next' : Stamp → Task α}
      (hnext : ∀ stamp stamp', Alike branch (next stamp) (next' stamp')) :
    Alike branch (.perform .clock next) (.perform .clock next')
  | same {c : Effect} {next next' : c.Reply → Task α} (hc : c.KeepsTo branch)
      (hnext : ∀ reply, Alike branch (next reply) (next' reply)) :
    Alike branch (.perform c next) (.perform c next')

theorem Alike.bind {p p' : Task α} {f f' : α → Task β} (h : Alike branch p p')
    (hf : ∀ a, Alike branch (f a) (f' a)) : Alike branch (p >>= f) (p' >>= f') := by
  induction h with
  | done a => exact hf a
  | halted => exact .halted
  | record ho huntimed _ ih => exact .record ho huntimed ih
  | clock _ ih => exact .clock ih
  | same hc _ ih => exact .same hc ih

theorem alike_pure (a : α) : Alike branch (pure a) (pure a) := .done a

theorem alike_computed (c : Computed α) :
    Alike branch (Program.computed c) (Program.computed c) := by
  match c with
  | .ok a => exact .done a
  | .error .overflow => exact .halted

theorem alike_display (d : Display) : Alike branch (display d) (display d) :=
  .same (c := .display d) trivial fun _ => .done ()

theorem alike_check (path : FilePath) : Alike branch (check path) (check path) :=
  .same (c := .check path) trivial fun b => .done b

theorem alike_pause {label : StepLabel} (h : label.branch = some branch) (delay : Duration) :
    Alike branch (pause label delay) (pause label delay) :=
  .same (c := .pause label delay) h fun _ => .done ()

theorem alike_command {request : CommandRequest} (h : request.label.branch = some branch) :
    Alike branch (command request) (command request) :=
  .same (c := .start request) h fun _ => .same (c := .finish request) h fun o => .done o

theorem alike_record {o o' : Occurrence} (ho : o.branch? = some branch)
    (huntimed : o'.untimed = o.untimed) : Alike branch (record o) (record o') :=
  .record ho huntimed fun _ _ => .done ()

theorem Alike.afterClock {f f' : Stamp → Task α}
    (hf : ∀ stamp stamp', Alike branch (f stamp) (f' stamp')) :
    Alike branch (Task.clock >>= f) (Task.clock >>= f') :=
  .clock hf

theorem Alike.afterMilliseconds {start start' : Timestamp} {f f' : Nat → Task α}
    (hf : ∀ n n', Alike branch (f n) (f' n')) :
    Alike branch (millisecondsSince start >>= f) (millisecondsSince start' >>= f') :=
  .clock fun _ _ => hf _ _

end Task

open Runbook.Task (Alike)

/-! ### Conditions -/

namespace Condition

variable {w : Workspace} {root : Option FilePath} {branch : Nat}

mutual

theorem alike_evaluate (c : Condition) :
    Alike branch (evaluate w (fun path => Task.check (located root path)) c)
      (evaluate w (fun path => Task.check (located root path)) c) := by
  cases c with
  | fileExists path => exact Task.alike_check _
  | all conditions => exact alike_evaluateAll conditions
  | any conditions => exact alike_evaluateAny conditions
  | not condition => exact (alike_evaluate condition).bind fun _ => Task.alike_pure _
  | _ => exact Task.alike_pure _

theorem alike_evaluateAll (cs : List Condition) :
    Alike branch (evaluateAll w (fun path => Task.check (located root path)) cs)
      (evaluateAll w (fun path => Task.check (located root path)) cs) := by
  cases cs with
  | nil => exact Task.alike_pure _
  | cons c rest =>
    refine (alike_evaluate c).bind fun holds => ?_
    cases holds with
    | true => exact alike_evaluateAll rest
    | false => exact Task.alike_pure _

theorem alike_evaluateAny (cs : List Condition) :
    Alike branch (evaluateAny w (fun path => Task.check (located root path)) cs)
      (evaluateAny w (fun path => Task.check (located root path)) cs) := by
  cases cs with
  | nil => exact Task.alike_pure _
  | cons c rest =>
    refine (alike_evaluate c).bind fun holds => ?_
    cases holds with
    | true => exact Task.alike_pure _
    | false => exact alike_evaluateAny rest

end

end Condition

theorem Step.alike_isDue {branch : Nat} (guard : Option Condition) (scope : RunScope)
    (w : Workspace) : Alike branch (isDue guard scope w) (isDue guard scope w) := by
  cases guard with
  | none => exact Task.alike_pure _
  | some c => exact Condition.alike_evaluate c

/-! ### Run steps -/

namespace RunStep

variable {scope : RunScope} {request : CommandRequest} {branch : Nat}

theorem alike_attempt (hlabel : request.label.branch = some branch) (retry : Retry)
    (made : UInt32) (bound : Nat) : Alike branch (attempt scope request retry made bound)
      (attempt scope request retry made bound) := by
  induction bound generalizing made with
  | zero => exact .halted
  | succ bound ih =>
    refine (Task.alike_command hlabel).bind fun outcome => ?_
    have again : ∀ next : Task CommandOutcome,
        next = (if outcome.success || !retry.allows made then pure outcome else do
          Task.record (.stepRetried request.label.index request.label.branch
            (Word.following made).toNat
            (scope.backoff.delay (Word.following made).toNat).milliseconds)
          Task.pause request.label (scope.backoff.delay (Word.following made).toNat)
          attempt scope request retry (Word.following made) bound) → Alike branch next next := by
      rintro _ rfl
      split
      · exact Task.alike_pure _
      · refine Alike.bind (Task.alike_record ?_ rfl) fun _ => ?_
        · exact hlabel
        · exact (Task.alike_pause hlabel _).bind fun _ => ih (Word.following made)
    dsimp only
    split
    · exact (Task.alike_display _).bind fun _ => again _ rfl
    · exact again _ rfl

theorem alike_attempts (hlabel : request.label.branch = some branch) (retry : Retry) :
    Alike branch (attempts scope request retry) (attempts scope request retry) :=
  alike_attempt hlabel retry 0 _

theorem alike_fallBack (hlabel : request.label.branch = some branch) (w : Workspace)
    (fallbacks : List Fallback) (last : CommandOutcome) (level : Nat) :
    Alike branch (fallBack scope w request last level fallbacks)
      (fallBack scope w request last level fallbacks) := by
  induction fallbacks generalizing last level with
  | nil => exact Task.alike_pure _
  | cons f rest ih =>
    refine Alike.bind (Task.alike_record ?_ rfl) fun _ => ?_
    · exact hlabel
    refine Alike.bind (alike_attempts ?_ f.retry) fun outcome => ?_
    · exact hlabel
    split
    · exact Task.alike_pure _
    · exact ih outcome (level + 1)

variable {label : StepLabel} (hlabel : label.branch = some branch)

include hlabel

theorem alike_execute (step : RunStep) (w : Workspace) :
    Alike branch (step.execute scope label w) (step.execute scope label w) := by
  have hrequest : (step.request scope label w).label.branch = some branch := hlabel
  refine (alike_attempts hrequest step.retry).bind fun outcome => ?_
  split
  · exact (Task.alike_computed _).bind fun _ => Task.alike_pure _
  · exact (alike_fallBack hrequest w step.fallbacks outcome 1).bind fun _ => Task.alike_pure _

theorem branch?_closing (command : String) (o : CommandOutcome) (milliseconds : Nat) :
    (closing label command o milliseconds).branch? = some branch := by
  unfold closing
  cases o.success <;> exact hlabel

omit hlabel in
theorem untimed_closing (command : String) (o : CommandOutcome) (n n' : Nat) :
    (closing label command o n').untimed = (closing label command o n).untimed := by
  unfold closing
  cases o.success <;> rfl

/-- The times that a run step is told go into the event that closes it, and nowhere else. -/
theorem alike_take (step : RunStep) (slot : Nat) (w : Workspace) :
    Alike branch (step.take scope label slot w) (step.take scope label slot w) := by
  refine Alike.afterClock fun start start' => ?_
  refine (alike_execute hlabel step w).bind fun result => ?_
  refine Alike.afterMilliseconds fun n n' => ?_
  refine (Task.alike_record (branch?_closing hlabel _ _ _) (untimed_closing _ _ _ _)).bind
    fun _ => ?_
  exact Task.alike_pure _

end RunStep

/-! ### Branches -/

theorem Step.alike_fail {branch : Nat} {label : StepLabel} (hlabel : label.branch = some branch)
    (message : String) (slot : Nat) (w : Workspace) :
    Alike branch (fail message label slot w) (fail message label slot w) := by
  refine Alike.bind (Task.alike_record ?_ rfl) fun _ => Task.alike_pure _
  exact hlabel

/-- What a branch does depends on no time, and all of it bears the label of the branch. -/
theorem Branch.alike_take {label : StepLabel} {branch : Nat} (hlabel : label.branch = some branch)
    (b : Branch) (scope : RunScope) (w : Workspace) :
    Alike branch (b.take scope label branch w) (b.take scope label branch w) := by
  refine (Step.alike_isDue b.guard scope w).bind fun due => ?_
  cases due with
  | true =>
    rw [if_pos rfl]
    cases b.action with
    | run step => exact (RunStep.alike_take hlabel step _ w).bind fun _ => Task.alike_pure _
    | fail message => exact (Step.alike_fail hlabel message _ w).bind fun _ => Task.alike_pure _
    | choose _ => exact Task.alike_pure _
    | prompt _ => exact Task.alike_pure _
  | false =>
    refine (Task.alike_display _).bind fun _ => ?_
    exact (Task.alike_record rfl rfl).bind fun _ => Task.alike_pure _

end Runbook
