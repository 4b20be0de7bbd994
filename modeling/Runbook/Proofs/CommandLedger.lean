import Runbook.Proofs.BranchIsolation
import Runbook.Proofs.Relocation

/-!
The ledger of commands. The calls that are made for a step or branch, and what the history has about
its command, are read off a run as one sequence of entries. Main statement: the history accounts for
every command that is called: the first call of a step or branch, each retry, each fallback, and the
closing, which has the command of the step itself.
-/

namespace Runbook

open Program (Runs)

/-! ### Entries -/

/-- What becomes of the command of a step or branch: it is called, it is to be called again, another
one is to be called in its stead, and the step is closed. -/
inductive LedgerEntry where
  | called (command : String)
  | retried
  | fellBack (command : String)
  | closed (resolved : Option ResolvedValue)
  deriving DecidableEq, Repr

namespace LedgerEntry

def command? : LedgerEntry → Option String
  | .called command => some command
  | _ => none

def isRetry : LedgerEntry → Bool
  | .retried => true
  | _ => false

def isFallback : LedgerEntry → Bool
  | .fellBack _ => true
  | _ => false

def isClosing : LedgerEntry → Bool
  | .closed _ => true
  | _ => false

end LedgerEntry

namespace Occurrence

def isAt (index : Nat) (branch : Option Nat) (o : Occurrence) : Bool :=
  o.step? == some index && o.branch? == branch

def isRetry : Occurrence → Bool
  | .stepRetried .. => true
  | _ => false

def isFallback : Occurrence → Bool
  | .fallbackStarted .. => true
  | _ => false

/-- Whether a step or branch that runs a command is over, with success or not. -/
def closesRun : Occurrence → Bool
  | .stepCompleted _ _ kind .. => kind == "run"
  | .stepFailed _ _ kind .. => kind == "run"
  | _ => false

def resolved? : Occurrence → Option ResolvedValue
  | .stepCompleted _ _ _ resolved .. => resolved
  | .stepFailed _ _ _ resolved .. => resolved
  | _ => none

def posting? : Occurrence → Option LedgerEntry
  | .stepRetried .. => some .retried
  | .fallbackStarted _ _ _ command => some (.fellBack command)
  | o => if o.closesRun then some (.closed o.resolved?) else none

theorem any_isRetry_posting? (o : Occurrence) : o.posting?.any (·.isRetry) = o.isRetry := by
  cases o with
  | stepCompleted _ _ kind | stepFailed _ _ kind =>
    cases h : kind == "run" <;> simp [posting?, closesRun, h, isRetry, LedgerEntry.isRetry]
  | _ => rfl

theorem any_isFallback_posting? (o : Occurrence) :
    o.posting?.any (·.isFallback) = o.isFallback := by
  cases o with
  | stepCompleted _ _ kind | stepFailed _ _ kind =>
    cases h : kind == "run" <;> simp [posting?, closesRun, h, isFallback, LedgerEntry.isFallback]
  | _ => rfl

theorem any_isClosing_posting? (o : Occurrence) : o.posting?.any (·.isClosing) = o.closesRun := by
  cases o with
  | stepCompleted _ _ kind | stepFailed _ _ kind =>
    cases h : kind == "run" <;> simp [posting?, closesRun, h, LedgerEntry.isClosing]
  | _ => rfl

theorem command?_of_posting? {o : Occurrence} {entry : LedgerEntry} (h : o.posting? = some entry) :
    entry.command? = none := by
  cases o with
  | stepRetried | fallbackStarted =>
    obtain rfl := Option.some.inj h
    rfl
  | stepCompleted | stepFailed =>
    obtain ⟨_, hentry⟩ := Option.ite_none_right_eq_some.mp h
    obtain rfl := Option.some.inj hentry
    rfl
  | _ => simp [posting?, closesRun] at h

theorem posting?_of_closesRun {o : Occurrence} (h : o.closesRun = true) :
    o.posting? = some (.closed o.resolved?) := by
  cases o with
  | stepCompleted | stepFailed => exact if_pos h
  | _ => simp [closesRun] at h

end Occurrence

def Effect.postingAt? (index : Nat) (branch : Option Nat) : Effect → Option LedgerEntry
  | .start request =>
    if request.label.index = index ∧ request.label.branch = branch then
      some (.called request.command)
    else none
  | .record o => if o.isAt index branch then o.posting? else none
  | _ => none

def Effect.commandAt? (index : Nat) (branch : Option Nat) : Effect → Option String
  | .start request =>
    if request.label.index = index ∧ request.label.branch = branch then some request.command
    else none
  | _ => none

def commandsAt (index : Nat) (branch : Option Nat) (es : RunTrace) : List String :=
  es.filterMap (·.call.commandAt? index branch)

def Run.occurrencesAt (r : Run) (index : Nat) (branch : Option Nat) : List Occurrence :=
  r.occurrences.filter (·.isAt index branch)

def ledger (index : Nat) (branch : Option Nat) (es : RunTrace) : List LedgerEntry :=
  es.filterMap (·.call.postingAt? index branch)

section Ledger

variable {index : Nat} {branch : Option Nat} {es : RunTrace}

theorem Effect.postingAt?_record {o : Occurrence} (hstep : o.step? = some index)
    (hbranch : o.branch? = branch) : (Effect.record o).postingAt? index branch = o.posting? :=
  if_pos (by simp [Occurrence.isAt, hstep, hbranch])

theorem Effect.postingAt?_eq_none {o : Occurrence} (h : o.posting? = none) :
    (Effect.record o).postingAt? index branch = none := by
  rw [postingAt?, h, ite_self]

@[simp] theorem ledger_nil : ledger index branch [] = [] := rfl

@[simp] theorem ledger_append (es fs : RunTrace) :
    ledger index branch (es ++ fs) = ledger index branch es ++ ledger index branch fs :=
  List.filterMap_append

theorem ledger_cons (e : Exchange Effect.interface) (es : RunTrace) :
    ledger index branch (e :: es) =
      (Effect.postingAt? index branch e.call).toList ++ ledger index branch es :=
  filterMap_cons_toList _ e es

theorem ledger_eq_nil (h : ∀ e ∈ es, Effect.postingAt? index branch e.call = none) :
    ledger index branch es = [] :=
  List.filterMap_eq_nil_iff.mpr h

theorem ledger_skipped (label : StepLabel) (step : Nat) (branch' : Option Nat) (stamp : Stamp) :
    ledger index branch [⟨.display (.stepSkipped label), ()⟩,
      ⟨.record (.stepSkipped step branch'), stamp⟩] = [] := by
  rw [ledger_cons, ledger_cons, Effect.postingAt?_eq_none rfl]
  rfl

theorem commandsAt_eq (es : RunTrace) :
    commandsAt index branch es = (ledger index branch es).filterMap (·.command?) := by
  rw [commandsAt, ledger, List.filterMap_filterMap]
  refine List.filterMap_congr fun e _ => ?_
  obtain ⟨c, reply⟩ := e
  cases c with
  | start request =>
    simp only [Effect.commandAt?, Effect.postingAt?]
    split <;> rfl
  | record o =>
    simp only [Effect.commandAt?, Effect.postingAt?]
    split
    · cases hentry : o.posting? with
      | none => rfl
      | some entry => exact (Occurrence.command?_of_posting? hentry).symm
    · rfl
  | _ => rfl

theorem countP_recorded {p : LedgerEntry → Bool} {q : Occurrence → Bool}
    (hcalls : ∀ command, p (.called command) = false)
    (hq : ∀ o : Occurrence, o.posting?.any p = q o) (es : RunTrace) :
    ((recorded es).filter (·.isAt index branch)).countP q = (ledger index branch es).countP p := by
  rw [recorded, List.countP_filter, List.countP_filterMap, ledger, List.countP_filterMap]
  refine List.countP_congr fun e _ => ?_
  obtain ⟨c, reply⟩ := e
  cases c with
  | start request =>
    simp only [occurrence?, Effect.postingAt?]
    split <;> simp [hcalls]
  | record o =>
    have hentry := hq o
    simp only [occurrence?, Effect.postingAt?]
    cases hat : o.isAt index branch with
    | false => simp [hat]
    | true => cases ho : o.posting? <;> simp_all
  | _ => simp [occurrence?, Effect.postingAt?]

theorem Effect.postingAt?_of_isWork {c : Effect} {index' : Nat} {branch' : Option Nat}
    (h : c.IsWork index' branch') (hne : ¬ (index' = index ∧ branch' = branch)) :
    c.postingAt? index branch = none := by
  cases c with
  | record o =>
    refine if_neg ?_
    simpa [Occurrence.isAt, h.1, h.2.1] using hne
  | start request =>
    have hlabel : request.label.index = index' ∧ request.label.branch = branch' := h
    exact if_neg (by rwa [hlabel.1, hlabel.2])
  | _ => rfl

/-- The closing of a command is an entry of the step or branch that it is about. -/
theorem closed_mem_ledger {o : Occurrence} (ho : o ∈ recorded es) (hat : o.isAt index branch = true)
    (hclosing : o.closesRun = true) : .closed o.resolved? ∈ ledger index branch es := by
  obtain ⟨e, he, hoccurrence⟩ := List.mem_filterMap.mp ho
  refine List.mem_filterMap.mpr ⟨e, he, ?_⟩
  obtain ⟨c, reply⟩ := e
  cases c with
  | record o' =>
    obtain rfl := Option.some.inj hoccurrence
    rw [Effect.postingAt?, hat, if_pos rfl, Occurrence.posting?_of_closesRun hclosing]
  | _ => cases hoccurrence

/-- Work for another step or branch leaves no entry. -/
theorem ledger_eq_nil_of_isWork {index' : Nat} {branch' : Option Nat}
    (h : ∀ e ∈ es, e.call.IsWork index' branch') (hne : ¬ (index' = index ∧ branch' = branch)) :
    ledger index branch es = [] :=
  ledger_eq_nil fun e he => Effect.postingAt?_of_isWork (h e he) hne

/-- Lookups of files leave no entry. -/
theorem ledger_of_runs_isDue {guard : Option Condition} {scope : RunScope} {w : Workspace}
    {due : Bool} (h : Runs (Step.isDue guard scope w) es due) : ledger index branch es = [] := by
  refine ledger_eq_nil fun e he => ?_
  obtain ⟨path, b, rfl⟩ := Step.isCheck_of_runs_isDue h e he
  rfl

end Ledger

/-! ### Accounts -/

def tryEntries (command : String) (retries : Nat) : List LedgerEntry :=
  .called command :: (List.replicate retries [.retried, .called command]).flatten

/-- The entries of fallbacks, each of which is tried again after some retries. -/
def fallbackEntries (fallbacks : List (String × Nat)) : List LedgerEntry :=
  fallbacks.flatMap fun f => .fellBack f.1 :: tryEntries f.1 f.2

/-- The entries of a step or branch that runs a command. -/
def account (command : String) (retries : Nat) (fallbacks : List (String × Nat)) :
    List LedgerEntry :=
  tryEntries command retries ++ (fallbackEntries fallbacks ++ [.closed (some (.command command))])

/-- Entries with so many calls that neither a retry nor a fallback accounts for. -/
def Balanced (calls : Nat) (entries : List LedgerEntry) : Prop :=
  (entries.filterMap (·.command?)).length =
    calls + entries.countP (·.isRetry) + entries.countP (·.isFallback)

/-- Entries in which every fallback is followed by the call of its command. -/
def Followed : List LedgerEntry → Prop
  | [] => True
  | .fellBack command :: rest => rest.head? = some (.called command) ∧ Followed rest
  | _ :: rest => Followed rest

section Accounts

variable {entries more : List LedgerEntry}

theorem Balanced.append {calls others : Nat} (h : Balanced calls entries)
    (hmore : Balanced others more) : Balanced (calls + others) (entries ++ more) := by
  simp only [Balanced, List.filterMap_append, List.length_append, List.countP_append] at *
  omega

theorem balanced_tryEntries (command : String) (retries : Nat) :
    Balanced 1 (tryEntries command retries) := by
  unfold tryEntries
  have hretry : Balanced 0 [.retried, .called command] := rfl
  have hretries : Balanced 0 (List.replicate retries [.retried, .called command]).flatten := by
    induction retries with
    | zero => rfl
    | succ n ih => simpa [List.replicate_succ] using hretry.append ih
  have hcall : Balanced 1 [.called command] := rfl
  exact hcall.append hretries

theorem balanced_fallbackEntries (fallbacks : List (String × Nat)) :
    Balanced 0 (fallbackEntries fallbacks) := by
  induction fallbacks with
  | nil => rfl
  | cons f rest ih =>
    have hfirst : Balanced 0 (.fellBack f.1 :: tryEntries f.1 f.2) := by
      have htries := balanced_tryEntries f.1 f.2
      simp [Balanced, LedgerEntry.command?, LedgerEntry.isRetry, LedgerEntry.isFallback] at *
      omega
    simpa [fallbackEntries] using hfirst.append ih

theorem balanced_account (command : String) (retries : Nat) (fallbacks : List (String × Nat)) :
    Balanced 1 (account command retries fallbacks) := by
  have hclosing : Balanced 0 [.closed (some (.command command))] := rfl
  exact (balanced_tryEntries command retries).append
    ((balanced_fallbackEntries fallbacks).append hclosing)

theorem Followed.append (h : Followed entries) (hmore : Followed more) :
    Followed (entries ++ more) := by
  induction entries with
  | nil => exact hmore
  | cons entry rest ih =>
    cases entry with
    | fellBack command =>
      obtain ⟨hhead, hrest⟩ := h
      have hfirst : (rest ++ more).head? = some (.called command) := by
        rw [List.head?_append, hhead, Option.some_or]
      exact ⟨hfirst, ih hrest⟩
    | _ => exact ih h

theorem Followed.of_append (h : Followed (entries ++ more)) : Followed more := by
  induction entries with
  | nil => exact h
  | cons entry rest ih =>
    cases entry with
    | fellBack command => exact ih h.2
    | _ => exact ih h

theorem followed_tryEntries (command : String) (retries : Nat) :
    Followed (tryEntries command retries) := by
  unfold tryEntries
  induction retries with
  | zero => trivial
  | succ n ih => exact ih

theorem followed_account (command : String) (retries : Nat) (fallbacks : List (String × Nat)) :
    Followed (account command retries fallbacks) := by
  have hfallbacks : Followed (fallbackEntries fallbacks) := by
    induction fallbacks with
    | nil => trivial
    | cons f rest ih =>
      have hfirst : Followed (.fellBack f.1 :: tryEntries f.1 f.2) :=
        ⟨rfl, followed_tryEntries f.1 f.2⟩
      exact hfirst.append ih
  exact (followed_tryEntries command retries).append (hfallbacks.append trivial)

theorem filter_account (command : String) (retries : Nat) (fallbacks : List (String × Nat)) :
    (account command retries fallbacks).filter (·.isClosing) =
      [.closed (some (.command command))] := by
  have htries : ∀ command retries, (tryEntries command retries).filter (·.isClosing) = [] := by
    intro command retries
    simp [tryEntries, LedgerEntry.isClosing]
  have hfallbacks : (fallbackEntries fallbacks).filter (·.isClosing) = [] := by
    induction fallbacks with
    | nil => rfl
    | cons f rest ih =>
      have hfirst : (LedgerEntry.fellBack f.1 :: tryEntries f.1 f.2).filter (·.isClosing) = [] :=
        htries f.1 f.2
      rw [fallbackEntries, List.flatMap_cons, List.filter_append, hfirst]
      exact ih
  rw [account, List.filter_append, List.filter_append, htries, hfallbacks]
  rfl

end Accounts

/-! ### Run steps -/

namespace RunStep

variable {scope : RunScope} {request : CommandRequest}

theorem ledger_tryTrace (request : CommandRequest) (o : CommandOutcome) :
    ledger request.label.index request.label.branch (tryTrace request o) =
      [.called request.command] := by
  rw [tryTrace, ledger_append, ledger_cons]
  split <;> simp [Effect.postingAt?, ledger_cons]

theorem Attempted.ledger_eq {retry : Retry} {made : UInt32} {es : RunTrace} {o : CommandOutcome}
    (h : Attempted scope request retry made es o) :
    ∃ retries, ledger request.label.index request.label.branch es =
      tryEntries request.command retries := by
  induction h with
  | settled => exact ⟨0, ledger_tryTrace request _⟩
  | retried _ _ ih =>
    obtain ⟨n, hn⟩ := ih
    refine ⟨n + 1, ?_⟩
    have hnoted : ∀ made, Effect.postingAt? request.label.index request.label.branch
        (.record (retryOccurrence scope request.label made)) = some .retried :=
      fun _ => Effect.postingAt?_record rfl rfl
    rw [ledger_append, ledger_tryTrace, ledger_cons, hnoted, ledger_cons, hn]
    simp [Effect.postingAt?, tryEntries, List.replicate_succ]

theorem FellBack.ledger_eq {w : Workspace} {last final : CommandOutcome} {level : Nat}
    {fallbacks : List Fallback} {es : RunTrace}
    (h : FellBack scope w request last level fallbacks es final) :
    ∃ others, ledger request.label.index request.label.branch es = fallbackEntries others := by
  have hnoted : ∀ (level : Nat) (command : String), Effect.postingAt? request.label.index
      request.label.branch (.record (.fallbackStarted request.label.index request.label.branch level
        command)) = some (.fellBack command) := fun _ _ => Effect.postingAt?_record rfl rfl
  induction h with
  | exhausted => exact ⟨[], rfl⟩
  | @recovered _ _ f _ _ es _ tries _ =>
    obtain ⟨n, hn⟩ := tries.ledger_eq
    refine ⟨[(Template.substitute w f.command, n)], ?_⟩
    have hes : ledger request.label.index request.label.branch es =
      tryEntries (Template.substitute w f.command) n := hn
    rw [ledger_cons, hnoted, hes]
    simp [fallbackEntries]
  | @failed _ _ f _ _ es _ _ _ tries _ _ ih =>
    obtain ⟨n, hn⟩ := tries.ledger_eq
    obtain ⟨others, hothers⟩ := ih
    refine ⟨(Template.substitute w f.command, n) :: others, ?_⟩
    have hes : ledger request.label.index request.label.branch es =
      tryEntries (Template.substitute w f.command) n := hn
    rw [ledger_cons, hnoted, ledger_append, hes, hothers]
    simp [fallbackEntries]

theorem Executed.ledger_eq {step : RunStep} {label : StepLabel} {w : Workspace} {es : RunTrace}
    {result : RunStepResult} (h : Executed step scope label w es result) :
    ∃ retries fallbacks, ledger label.index label.branch es =
      tryEntries (Template.substitute w step.command) retries ++ fallbackEntries fallbacks := by
  cases h with
  | captured tries _ =>
    obtain ⟨n, hn⟩ := tries.ledger_eq
    exact ⟨n, [], hn.trans (List.append_nil _).symm⟩
  | fellBack tries _ others =>
    obtain ⟨n, hn⟩ := tries.ledger_eq
    obtain ⟨fallbacks, hfallbacks⟩ := others.ledger_eq
    exact ⟨n, fallbacks, (ledger_append _ _).trans (congrArg₂ (· ++ ·) hn hfallbacks)⟩

theorem isWork_of_runs_take {step : RunStep} {label : StepLabel} {slot : Nat} {w : Workspace}
    {es : RunTrace} {result : RunStepResult} (h : Runs (step.take scope label slot w) es result) :
    ∀ e ∈ es, e.call.IsWork label.index label.branch :=
  (mirrors_take (Run.sharesSettings_refl scope) ⟨rfl, rfl, rfl, rfl⟩ step
    (Run.resembles_refl w).toSameValues slot slot).calls h

theorem postingAt?_closing (label : StepLabel) (command : String) (o : CommandOutcome)
    (milliseconds : Nat) : Effect.postingAt? label.index label.branch
      (.record (closing label command o milliseconds)) =
        some (.closed (some (.command command))) := by
  unfold closing
  cases o.success with
  | true => exact Effect.postingAt?_record rfl rfl
  | false => exact Effect.postingAt?_record rfl rfl

theorem ledger_of_runs_take {step : RunStep} {label : StepLabel} {slot : Nat} {w : Workspace}
    {es : RunTrace} {result : RunStepResult} (h : Runs (step.take scope label slot w) es result) :
    ∃ retries fallbacks, ledger label.index label.branch es =
      account (Template.substitute w step.command) retries fallbacks := by
  obtain ⟨started, inner, final, finished, milliseconds, stamp, rfl, hexecuted, _⟩ :=
    executed_of_runs_take h
  obtain ⟨retries, fallbacks, hinner⟩ := hexecuted.ledger_eq
  refine ⟨retries, fallbacks, ?_⟩
  have hclosing : Effect.postingAt? label.index label.branch (.record (closing label
      (step.request scope label w).command final.outcome milliseconds)) =
      some (.closed (some (.command (Template.substitute w step.command)))) :=
    postingAt?_closing label _ _ _
  rw [ledger_cons, ledger_append, hinner, ledger_cons, ledger_cons, hclosing, account,
    List.append_assoc]
  rfl

end RunStep

/-! ### Steps and branches -/

def Action.runStep? : Action → Option RunStep
  | .run step => some step
  | _ => none

def Step.runStep? (step : Step) (branch : Option Nat) : Option RunStep :=
  match step.body with
  | .action action => branch.elim action.runStep? fun _ => none
  | .parallel branches => (branch.bind (branches[·]?)).bind (·.action.runStep?)

/-- Entries of a step or branch: it has none, or they are an account of the command that it runs,
with the values of a workspace in it. -/
def Accounted (step? : Option RunStep) (w : Workspace) (entries : List LedgerEntry) : Prop :=
  entries = [] ∨ ∃ step retries fallbacks, step? = some step ∧
    entries = account (Template.substitute w step.command) retries fallbacks

section Steps

variable {scope : RunScope} {label : StepLabel} {w : Workspace} {es : RunTrace} {e : StepEnd}

theorem Step.ledger_of_runs_fail {message : String} {slot index : Nat} {branch : Option Nat}
    (h : Runs (fail message label slot w) es e) : ledger index branch es = [] := by
  obtain ⟨stamp, rfl, _⟩ := runs_fail h
  rw [ledger_cons, Effect.postingAt?_eq_none rfl]
  rfl

theorem Step.ledger_of_runs_question {name : String} {question : Question}
    (hkind : label.kind ≠ "run") (make : String → ResolvedValue) (bound : String → Workspace)
    {index : Nat} {branch : Option Nat} (h : Runs (do
      let start ← Task.clock
      match ← valueOrAnswer scope name question with
      | .ok value => complete label (make value) start.time (bound value)
      | .error cause => unanswered label cause start.time w) es e) :
    ledger index branch es = [] := by
  obtain ⟨started, asked, answer, finished, o, stamp, rfl, hasked, hend⟩ :=
    exchanges_of_runs_question make bound h
  have hkind' : (label.kind == "run") = false := beq_eq_false_iff_ne.mpr hkind
  have hclosing : o.posting? = none := by
    split at hend <;> obtain ⟨⟨_, rfl⟩, _⟩ := hend <;>
      simp [Occurrence.posting?, Occurrence.closesRun, hkind']
  have hquestion : ledger index branch asked = [] := by
    split at hasked
    · rw [hasked.1, ledger_nil]
    · rw [hasked]
      rfl
  rw [ledger_cons, ledger_append, hquestion, ledger_cons, ledger_cons,
    Effect.postingAt?_eq_none hclosing]
  rfl

/-- The entries of a step that does a single thing; it has no branches that could have any. -/
theorem Step.accounted_of_runs_act {action : Action} (hlabel : label.kind = action.kind)
    (hbranch : label.branch = none) (h : Runs (act action scope label w) es e)
    (branch : Option Nat) :
    Accounted (branch.elim action.runStep? fun _ => none) w (ledger label.index branch es) := by
  cases action with
  | run step =>
    obtain ⟨taken, result, _, rfl, htaken, rfl, _⟩ := Program.runs_bind.mp h
    rw [List.append_nil]
    cases branch with
    | none =>
      obtain ⟨retries, fallbacks, hledger⟩ := RunStep.ledger_of_runs_take htaken
      rw [hbranch] at hledger
      exact .inr ⟨step, retries, fallbacks, rfl, hledger⟩
    | some i =>
      -- the command bears the label of the step, which is that of no branch
      refine .inl (ledger_eq_nil_of_isWork (RunStep.isWork_of_runs_take htaken) ?_)
      simp [hbranch]
  | choose step =>
    have hkind : label.kind ≠ "run" := by simp [hlabel, Action.kind]
    exact .inl (ledger_of_runs_question hkind .choice
      (fun id => (w.setChoice id id).setVariable step.variableName id) h)
  | prompt step =>
    have hkind : label.kind ≠ "run" := by simp [hlabel, Action.kind]
    exact .inl (ledger_of_runs_question hkind .prompt
      (fun value => (w.setVariable step.storeAs value).setFact step.storeAs (.text value)) h)
  | fail message => exact .inl (ledger_of_runs_fail h)

theorem Branch.accounted_of_runs {b : Branch} {branch : Nat} {r : Except String End}
    (hbranch : label.branch = some branch) (h : Runs (b.take scope label branch w) es r) :
    Accounted b.action.runStep? w (ledger label.index (some branch) es) := by
  obtain ⟨checks, due, tail, rfl, hdue, htail⟩ := Program.runs_bind.mp h
  rw [ledger_append, ledger_of_runs_isDue hdue, List.nil_append]
  cases due with
  | false =>
    obtain ⟨stamp, rfl, rfl⟩ := Task.runs_noting htail
    exact .inl (ledger_skipped _ _ _ _)
  | true =>
    cases haction : b.action with
    | run step =>
      simp only [haction, if_true] at htail
      obtain ⟨taken, result, _, rfl, htaken, rfl, _⟩ := Program.runs_bind.mp htail
      obtain ⟨retries, fallbacks, hledger⟩ := RunStep.ledger_of_runs_take htaken
      rw [hbranch] at hledger
      exact .inr ⟨step, retries, fallbacks, rfl, by rw [List.append_nil, hledger]⟩
    | fail message =>
      simp only [haction, if_true] at htail
      obtain ⟨failed, _, _, rfl, hfailed, rfl, _⟩ := Program.runs_bind.mp htail
      exact .inl (by rw [List.append_nil, Step.ledger_of_runs_fail hfailed])
    | choose _ =>
      simp only [haction, if_true] at htail
      obtain ⟨rfl, _⟩ := htail
      exact .inl rfl
    | prompt _ =>
      simp only [haction, if_true] at htail
      obtain ⟨rfl, _⟩ := htail
      exact .inl rfl

theorem Branch.isWork_of_runs {b : Branch} {branch : Nat} {r : Except String End}
    (hbranch : label.branch = some branch) (h : Runs (b.take scope label branch w) es r) :
    ∀ x ∈ es, x.call.IsWork label.index label.branch :=
  (mirrors_take (Run.sharesSettings_refl scope) ⟨rfl, rfl, rfl, rfl⟩ hbranch
    (Run.resembles_refl w) b).calls h

end Steps

/-! ### Runs -/

namespace Run

variable {bounds : RunBounds} {scope : RunScope} {w : Workspace} {es : RunTrace} {e : StepEnd}

theorem exists_runs_of_branchTasks {branches : List Branch} {index : Nat}
    {runs : List (RunTrace × Except String Branch.End)}
    (h : List.Forall₂ (fun p r => Runs p r.1 r.2) (branchTasks scope branches index w) runs)
    {i : Nat} {part : RunTrace} (hpart : (runs.map Prod.fst)[i]? = some part) :
    ∃ b r, branches[i]? = some b ∧
      Runs (b.take scope (branchLabel scope b index i w) i w) part r := by
  rw [branchTasks, List.forall₂_map_left_iff] at h
  obtain ⟨hlen, hall⟩ := List.forall₂_iff_get.mp h
  have hi : i < runs.length := by simpa using (List.getElem?_eq_some_iff.mp hpart).1
  have hi' : i < branches.length := by simpa [← hlen] using hi
  obtain rfl : runs[i].1 = part := by simpa [hi] using hpart
  refine ⟨branches[i], runs[i].2, List.getElem?_eq_getElem hi', ?_⟩
  simpa using hall i (by simpa using hi') hi

/-- The entries of a branch of a parallel step; the step itself has none. -/
theorem accounted_of_runs_takeParallel {branches : List Branch} {label : StepLabel}
    (h : Runs (takeParallel bounds scope branches label w) es e) (branch : Option Nat) :
    Accounted ((branch.bind (branches[·]?)).bind (·.action.runStep?)) w
      (ledger label.index branch es) := by
  obtain ⟨opened, runs, woven, back, rfl, hruns, hwoven, hend⟩ := woven_of_runs_takeParallel h
  have hback : ledger label.index branch back = [] := by
    split at hend
    · rw [hend.1, ledger_nil]
    · obtain ⟨⟨closed, rfl⟩, _⟩ := hend
      rw [ledger_cons, ledger_cons, Effect.postingAt?_eq_none rfl]
      rfl
  have hledger : ledger label.index branch
      (⟨.display (.parallelStarted label branches.length), ()⟩ ::
        ⟨.record (.parallelStarted label.index branches.length), opened⟩ :: (woven ++ back)) =
      ledger label.index branch woven := by
    rw [ledger_cons, ledger_cons, Effect.postingAt?_eq_none rfl, ledger_append, hback,
      List.append_nil]
    rfl
  rw [hledger]
  have hpick : ∀ g, Pool.IsPick Task.pick g → ledger label.index branch g = [] := by
    rintro g ⟨places, place, hg⟩
    obtain rfl := Task.runs_pick hg
    rfl
  have hothers : ∀ j part, (runs.map Prod.fst)[j]? = some part → some j ≠ branch →
      ledger label.index branch part = [] := by
    intro j part hpart hne
    obtain ⟨b, r, _, hr⟩ := exists_runs_of_branchTasks hruns hpart
    exact ledger_eq_nil_of_isWork (Branch.isWork_of_runs rfl hr) fun hat => hne hat.2
  -- however the branches are woven, one part at most has entries, and these keep their order
  by_cases hmine : ∃ i part, branch = some i ∧ (runs.map Prod.fst)[i]? = some part
  · obtain ⟨i, part, rfl, hpart⟩ := hmine
    obtain ⟨b, r, hb, hr⟩ := exists_runs_of_branchTasks hruns hpart
    have hwhole : ledger label.index (some i) woven = ledger label.index (some i) part :=
      hwoven.filterMap_eq _ hpick hpart fun j other hother hne =>
        hothers j other hother (by simpa using hne)
    have hbranch := Branch.accounted_of_runs rfl hr
    rw [hwhole, Option.bind_some, hb, Option.bind_some]
    exact hbranch
  · refine .inl (hwoven.filterMap_eq_nil _ hpick fun part hpart => ?_)
    obtain ⟨j, hj⟩ := List.getElem?_of_mem hpart
    exact hothers j part hj fun heq => hmine ⟨j, part, heq.symm, hj⟩

theorem accounted_of_runs_takeStep {step : Step} {index : Nat}
    (h : Runs (takeStep bounds scope step index w) es e) (branch : Option Nat) :
    Accounted (step.runStep? branch) w (ledger index branch es) := by
  cases stepPassed_of_runs h with
  | skipped hdue =>
    rw [ledger_append, ledger_of_runs_isDue hdue, ledger_skipped]
    exact .inl rfl
  | taken hdue htaken =>
    rw [ledger_append, ledger_of_runs_isDue hdue, List.nil_append]
    unfold takeDue at htaken
    cases hbody : step.body with
    | action action =>
      rw [hbody] at htaken
      have hkind : (stepLabel scope step index w).kind = action.kind := by
        simp [stepLabel, StepBody.kind, hbody]
      have haction := Step.accounted_of_runs_act hkind rfl htaken branch
      rw [Step.runStep?, hbody]
      exact haction
    | parallel branches =>
      rw [hbody] at htaken
      have hparallel := accounted_of_runs_takeParallel htaken branch
      rw [Step.runStep?, hbody]
      exact hparallel

theorem ledger_of_runs_takeStep {step : Step} {index other : Nat}
    (h : Runs (takeStep bounds scope step index w) es e) (hne : index ≠ other)
    (branch : Option Nat) : ledger other branch es = [] := by
  cases stepPassed_of_runs h with
  | skipped hdue =>
    rw [ledger_append, ledger_of_runs_isDue hdue, ledger_skipped]
    rfl
  | taken hdue htaken =>
    rw [ledger_append, ledger_of_runs_isDue hdue, List.nil_append]
    refine ledger_eq_nil fun x hx => ?_
    rcases isStepWork_of_runs_takeDue htaken x hx with ⟨branch', hwork⟩ | ⟨places, hpick⟩ |
      ⟨_, question, hask⟩
    · exact Effect.postingAt?_of_isWork hwork fun hat => hne hat.1
    · rw [hpick]
      rfl
    · rw [hask]
      rfl

end Run

theorem Effect.postingAt?_of_isFrame {c : Effect} {index : Nat} {branch : Option Nat}
    (h : c.IsFrame) : c.postingAt? index branch = none := by
  cases c with
  | record o =>
    have ho : o.step? = none := h
    exact if_neg (by simp [Occurrence.isAt, ho])
  | start => exact h.elim
  | _ => rfl

namespace Accounted

variable {step? : Option RunStep} {w : Workspace} {entries : List LedgerEntry}

theorem followed (h : Accounted step? w entries) : Followed entries := by
  obtain rfl | ⟨step, retries, fallbacks, _, rfl⟩ := h
  · trivial
  · exact followed_account _ retries fallbacks

/-- Where there is a closing, there are as many calls as it, the retries and the fallbacks together;
elsewhere there are none. -/
theorem length_eq (h : Accounted step? w entries) : (entries.filterMap (·.command?)).length =
    if entries.any (·.isClosing) then
      1 + entries.countP (·.isRetry) + entries.countP (·.isFallback)
    else 0 := by
  obtain rfl | ⟨step, retries, fallbacks, _, rfl⟩ := h
  · rfl
  · have hclosing : (account (Template.substitute w step.command) retries fallbacks).any
        (·.isClosing) = true := by
      simp [account, LedgerEntry.isClosing]
    rw [hclosing, if_pos rfl]
    exact balanced_account _ retries fallbacks

theorem eq_of_closed (h : Accounted step? w entries) {resolved : Option ResolvedValue}
    (hclosed : .closed resolved ∈ entries) : ∃ step, step? = some step ∧
      resolved = some (.command (Template.substitute w step.command)) := by
  obtain rfl | ⟨step, retries, fallbacks, hstep, rfl⟩ := h
  · cases hclosed
  · refine ⟨step, hstep, ?_⟩
    have hisClosing : (LedgerEntry.closed resolved).isClosing = true := rfl
    have hmem := List.mem_filter.mpr ⟨hclosed, hisClosing⟩
    rw [filter_account, List.mem_singleton] at hmem
    exact LedgerEntry.closed.inj hmem

end Accounted

namespace Workflow

variable {σ : Type} {w : Workflow} {host : RunHost σ} {options : RunOptions} {current : FilePath}
  {s : σ} {d : RunDriven σ Run} {passages : List Run.Passage}

/-- The entries of a step or branch are made in a single passage. -/
theorem Passed.accounted (h : w.Passed options current passages d) (index : Nat)
    (branch : Option Nat) : ∃ step? before,
      Accounted step? before (ledger index branch d.exchanges) ∧
      ∀ step, step? = some step → ∃ p ∈ passages, p.index = index ∧ p.before = before ∧
        p.step.runStep? branch = some step := by
  have hledger : ledger index branch d.exchanges =
      passages.flatMap fun p => ledger index branch p.exchanges :=
    h.filterMap_eq _ fun e => Effect.postingAt?_of_isFrame
  have hothers : ∀ q ∈ passages, q.index ≠ index → ledger index branch q.exchanges = [] :=
    fun q hq hne => Run.ledger_of_runs_takeStep (h.passes.runs hq) hne branch
  -- a run may have ended before it came to the step
  by_cases hmine : ∃ p ∈ passages, p.index = index
  · obtain ⟨p, hp, rfl⟩ := hmine
    refine ⟨p.step.runStep? branch, p.before, ?_, fun step hstep => ⟨p, hp, rfl, rfl, hstep⟩⟩
    rw [hledger, h.passes.flatMap_eq hp _ hothers]
    exact Run.accounted_of_runs_takeStep (h.passes.runs hp) branch
  · refine ⟨none, .empty, .inl ?_, nofun⟩
    rw [hledger]
    exact List.flatMap_eq_nil_iff.mpr fun q hq => hothers q hq fun heq => hmine ⟨q, hq, heq⟩

theorem Passed.countP_occurrencesAt (h : w.Passed options current passages d) (index : Nat)
    (branch : Option Nat) {p : LedgerEntry → Bool} {q : Occurrence → Bool}
    (hcalls : ∀ command, p (.called command) = false)
    (hq : ∀ o : Occurrence, o.posting?.any p = q o) :
    (d.result.occurrencesAt index branch).countP q =
      (ledger index branch d.exchanges).countP p := by
  rw [Run.occurrencesAt, ← h.recorded_eq]
  exact countP_recorded hcalls hq d.exchanges

/-- Whatever its host replies and whichever branch goes on, the history of a run accounts for every
command that is called. For each step, and for each branch of one, the calls are as many as the
retries, the fallbacks and one more, if the history has the closing of a command, and there are none
otherwise. The closing has the command of the step with the values before it, and each fallback the
command that is called next. -/
theorem commands_accounted_for (hd : w.run host options current s = some d) :
    ∃ passages, w.Passed options current passages d ∧ ∀ index branch,
      (commandsAt index branch d.exchanges).length =
        (if (d.result.occurrencesAt index branch).any (·.closesRun) then
          1 + (d.result.occurrencesAt index branch).countP (·.isRetry) +
            (d.result.occurrencesAt index branch).countP (·.isFallback)
        else 0) ∧
      (∀ o ∈ d.result.occurrencesAt index branch, o.closesRun = true →
        ∃ p ∈ passages, p.index = index ∧ ∃ step, p.step.runStep? branch = some step ∧
          o.resolved? = some (.command (Template.substitute p.before step.command))) ∧
      ∀ front level command stamp back, d.exchanges =
          front ++ ⟨.record (.fallbackStarted index branch level command), stamp⟩ :: back →
        (commandsAt index branch back).head? = some command := by
  obtain ⟨passages, hpassed⟩ := exists_passed hd
  refine ⟨passages, hpassed, fun index branch => ?_⟩
  obtain ⟨step?, before, haccounted, hpassage⟩ := hpassed.accounted index branch
  refine ⟨?_, fun o ho hclosing => ?_, fun front level command stamp back hsplit => ?_⟩
  · have hclosings := hpassed.countP_occurrencesAt index branch (fun _ => rfl)
      Occurrence.any_isClosing_posting?
    have hretries := hpassed.countP_occurrencesAt index branch (fun _ => rfl)
      Occurrence.any_isRetry_posting?
    have hfallbacks := hpassed.countP_occurrencesAt index branch (fun _ => rfl)
      Occurrence.any_isFallback_posting?
    have hany : (d.result.occurrencesAt index branch).any (·.closesRun) =
        (ledger index branch d.exchanges).any (·.isClosing) := by
      rw [Bool.eq_iff_iff, List.any_eq_true, List.any_eq_true, ← List.countP_pos_iff,
        ← List.countP_pos_iff, hclosings]
    rw [commandsAt_eq, haccounted.length_eq, hany, hretries, hfallbacks]
  · rw [Run.occurrencesAt, ← hpassed.recorded_eq, List.mem_filter] at ho
    obtain ⟨step, hstep, hresolved⟩ :=
      haccounted.eq_of_closed (closed_mem_ledger ho.1 ho.2 hclosing)
    obtain ⟨p, hp, hindex, rfl, hrun⟩ := hpassage step hstep
    exact ⟨p, hp, hindex, step, hrun, hresolved⟩
  · have hfollowed := haccounted.followed
    have hposting : Effect.postingAt? index branch
        (.record (.fallbackStarted index branch level command)) = some (.fellBack command) :=
      Effect.postingAt?_record rfl rfl
    rw [hsplit, ledger_append, ledger_cons, hposting] at hfollowed
    have hnext : (ledger index branch back).head? = some (.called command) :=
      hfollowed.of_append.1
    obtain ⟨rest, hrest⟩ := List.head?_eq_some_iff.mp hnext
    rw [commandsAt_eq, hrest]
    rfl

/-- A step whose command is tried twice, and then a fallback in its stead. -/
def persistent : Workflow :=
  ⟨none, none, none, [],
    [⟨none, .action (.run ⟨"first", none, .count 1, none, false, [⟨"second", none, .never⟩], []⟩)⟩],
    ⟨none, none, []⟩⟩

theorem commands_accounted_for_persistent : ∃ d : RunDriven Rehearsal Run,
    persistent.run Rehearsal.host ⟨[], .standard, ⟨1, 1⟩⟩ "/" Run.failing = some d ∧
    (d.result.occurrencesAt 0 none).countP (·.isRetry) = 1 ∧
    (d.result.occurrencesAt 0 none).countP (·.isFallback) = 1 ∧
    (commandsAt 0 none d.exchanges).length = 3 ∧
    ∀ front level command stamp back, d.exchanges =
        front ++ ⟨.record (.fallbackStarted 0 none level command), stamp⟩ :: back →
      (commandsAt 0 none back).head? = some command := by
  obtain ⟨d, hd, hclosed, hretries, hfallbacks⟩ : ∃ d : RunDriven Rehearsal Run,
      persistent.run Rehearsal.host ⟨[], .standard, ⟨1, 1⟩⟩ "/" Run.failing = some d ∧
      (d.result.occurrencesAt 0 none).any (·.closesRun) = true ∧
      (d.result.occurrencesAt 0 none).countP (·.isRetry) = 1 ∧
      (d.result.occurrencesAt 0 none).countP (·.isFallback) = 1 := ⟨_, rfl, rfl, rfl, rfl⟩
  obtain ⟨passages, _, haccounts⟩ := commands_accounted_for hd
  obtain ⟨hlength, _, hnext⟩ := haccounts 0 none
  rw [hclosed, if_pos rfl, hretries, hfallbacks] at hlength
  exact ⟨d, hd, hretries, hfallbacks, hlength, hnext⟩

end Workflow

end Runbook
