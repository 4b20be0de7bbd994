import Runbook.Proofs.FailFast

/-!
Steps that stand at another place. The place of a step shows in its labels, in what it records and
in where its outcome is kept, and nowhere else. Main statement: the tasks of a step at two places
make the same calls but for the place, as long as they are replied to alike, and they end alike.
-/

namespace Runbook

open Program (Runs)

/-! ### Effects at other places -/

/-- Labels that differ in the place of the step only. -/
structure StepLabel.Moved (l l' : StepLabel) : Prop where
  branch : l'.branch = l.branch
  kind : l'.kind = l.kind
  text : l'.text = l.text
  conditional : l'.conditional = l.conditional

structure CommandRequest.Moved (r r' : CommandRequest) : Prop where
  command : r'.command = r.command
  shell : r'.shell = r.shell
  directory : r'.directory = r.directory
  timeout : r'.timeout = r.timeout
  mode : r'.mode = r.mode
  label : r.label.Moved r'.label

theorem CommandRequest.Moved.withCommand {r r' : CommandRequest} (h : r.Moved r')
    (command : String) (timeout : Option Duration) :
    Moved { RunStep.withCommand r command with timeout }
      { RunStep.withCommand r' command with timeout } :=
  ⟨rfl, h.shell, h.directory, rfl, h.mode, h.label.branch, h.label.kind, rfl, h.label.conditional⟩

inductive Display.Moved : Display → Display → Prop where
  | bufferedResult {l l'} (h : l.Moved l') (o : CommandOutcome) :
    Moved (.bufferedResult l o) (.bufferedResult l' o)
  | stepSkipped {l l'} (h : l.Moved l') : Moved (.stepSkipped l) (.stepSkipped l')
  | parallelStarted {l l'} (h : l.Moved l') (branches : Nat) :
    Moved (.parallelStarted l branches) (.parallelStarted l' branches)
  | parallelFinished {l l'} (h : l.Moved l') (success : Bool) :
    Moved (.parallelFinished l success) (.parallelFinished l' success)

/-- Effects of steps that differ in the place of the step, or in what they record. -/
inductive Effect.Moved : Effect → Effect → Prop where
  | record (o o' : Occurrence) : Moved (.record o) (.record o')
  | display {d d'} (h : d.Moved d') : Moved (.display d) (.display d')
  | check (path : FilePath) : Moved (.check path) (.check path)
  | start {r r'} (h : r.Moved r') : Moved (.start r) (.start r')
  | finish {r r'} (h : r.Moved r') : Moved (.finish r) (.finish r')
  | ask (question : Question) : Moved (.ask question) (.ask question)
  | pause {l l'} (h : l.Moved l') (delay : Duration) : Moved (.pause l delay) (.pause l' delay)
  | clock : Moved .clock .clock
  | pick (places : List Nat) : Moved (.pick places) (.pick places)

/-- Replies to two effects that say the same, but for names and times. -/
def Effect.Agree : (c c' : Effect) → c.Reply → c'.Reply → Prop
  | .check _, .check _, b, b' => b' = b
  | .finish _, .finish _, o, o' => o' = o
  | .ask _, .ask _, answer, answer' => answer' = answer
  | .pick _, .pick _, place, place' => place' = place
  | _, _, _, _ => True

theorem Effect.Moved.exists_agree {c c' : Effect} (h : c.Moved c') (reply : c.Reply) :
    ∃ reply' : c'.Reply, c.Agree c' reply reply' := by
  cases h with
  | record => exact ⟨reply, trivial⟩
  | display => exact ⟨(), trivial⟩
  | check => exact ⟨reply, rfl⟩
  | start => exact ⟨(), trivial⟩
  | finish => exact ⟨reply, rfl⟩
  | ask => exact ⟨reply, rfl⟩
  | pause => exact ⟨(), trivial⟩
  | clock => exact ⟨reply, trivial⟩
  | pick => exact ⟨reply, rfl⟩

/-- What a step or a branch may do, questions apart: what it records is about it, and is not that
the step is skipped; the commands that it starts bear its label. -/
def Effect.IsWork (index : Nat) (branch : Option Nat) : Effect → Prop
  | .record o => o.step? = some index ∧ o.branch? = branch ∧ o ≠ .stepSkipped index none
  | .start request => request.label.index = index ∧ request.label.branch = branch
  | .ask _ | .save _ | .pick _ => False
  | _ => True

def Action.asks : Action → Prop
  | .choose _ | .prompt _ => True
  | _ => False

def StepBody.asks : StepBody → Prop
  | .action a => a.asks
  | .parallel _ => False

/-- What a step that is taken may do: its own work and that of its branches, one of which is picked
at a time, and if it is a question, to ask. -/
def Effect.IsStepWork (index : Nat) (asks : Prop) (c : Effect) : Prop :=
  (∃ branch, c.IsWork index branch) ∨ (∃ places, c = .pick places) ∨
    asks ∧ ∃ question, c = .ask question

namespace Task

variable {α β γ δ : Type} {P Q : Effect → Prop} {R : α → β → Prop} {S : γ → δ → Prop}

/-- The tasks make the same calls but for the place of a step, the first of them only such as `P`
says, as long as they are replied to alike; and their results are related. -/
inductive Mirrors (P : Effect → Prop) (R : α → β → Prop) : Task α → Task β → Prop where
  | done {a b} (h : R a b) : Mirrors P R (.done a) (.done b)
  | halted {why} : Mirrors P R (.halted why) (.halted why)
  | perform {c c' : Effect} {next : c.Reply → Task α} {next' : c'.Reply → Task β} (hc : P c)
      (hmoved : c.Moved c') (hnext : ∀ reply reply', c.Agree c' reply reply' →
        Mirrors P R (next reply) (next' reply')) :
    Mirrors P R (.perform c next) (.perform c' next')

namespace Mirrors

theorem bind {p : Task α} {p' : Task β} {f : α → Task γ} {f' : β → Task δ}
    (h : Mirrors P R p p') (hf : ∀ a b, R a b → Mirrors P S (f a) (f' b)) :
    Mirrors P S (p >>= f) (p' >>= f') := by
  induction h with
  | done h => exact hf _ _ h
  | halted => exact .halted
  | perform hc hmoved _ ih => exact .perform hc hmoved ih

theorem mono {R' : α → β → Prop} {p : Task α} {p' : Task β} (h : Mirrors P R p p')
    (hP : ∀ c, P c → Q c) (hR : ∀ a b, R a b → R' a b) : Mirrors Q R' p p' := by
  induction h with
  | done h => exact .done (hR _ _ h)
  | halted => exact .halted
  | perform hc hmoved _ ih => exact .perform (hP _ hc) hmoved ih

theorem calls {p : Task α} {p' : Task β} (h : Mirrors P R p p') {es : RunTrace} {a : α}
    (hruns : Runs p es a) : ∀ e ∈ es, P e.call := by
  induction h generalizing es with
  | done _ =>
    obtain ⟨rfl, _⟩ := hruns
    simp
  | halted => exact hruns.elim
  | @perform c c' next next' hc hmoved _ ih =>
    obtain ⟨reply, rest, rfl, hrest⟩ := hruns
    obtain ⟨reply', hagree⟩ := hmoved.exists_agree reply
    exact List.forall_mem_cons.mpr ⟨hc, ih reply reply' hagree hrest⟩

end Mirrors

theorem mirrors_pure {a : α} {b : β} (h : R a b) : Mirrors P R (pure a) (pure b) := .done h

theorem mirrors_effect (c c' : Effect) {S : c.Reply → c'.Reply → Prop} (h : P c)
    (hc : c.Moved c') (hS : ∀ reply reply', c.Agree c' reply reply' → S reply reply') :
    Mirrors P S (effect c) (effect c') :=
  .perform h hc fun reply reply' hagree => .done (hS reply reply' hagree)

theorem mirrors_record {o : Occurrence} (h : P (.record o)) (o' : Occurrence) :
    Mirrors P Eq (record o) (record o') :=
  (mirrors_effect (.record o) (.record o') h (.record o o') fun _ _ => id).bind
    fun _ _ _ => mirrors_pure rfl

theorem mirrors_display {d d' : Display} (h : P (.display d)) (hd : d.Moved d') :
    Mirrors P Eq (display d) (display d') :=
  mirrors_effect (.display d) (.display d') h (.display hd) fun _ _ _ => rfl

theorem mirrors_check {path : FilePath} (h : P (.check path)) :
    Mirrors P Eq (check path) (check path) :=
  mirrors_effect (.check path) (.check path) h (.check path) fun _ _ => Eq.symm

theorem mirrors_command {r r' : CommandRequest} (hstart : P (.start r)) (hfinish : P (.finish r))
    (hr : r.Moved r') : Mirrors P Eq (command r) (command r') :=
  (mirrors_effect (.start r) (.start r') hstart (.start hr) fun _ _ => id).bind fun _ _ _ =>
    mirrors_effect (.finish r) (.finish r') hfinish (.finish hr) fun _ _ => Eq.symm

theorem mirrors_ask {question : Question} (h : P (.ask question)) :
    Mirrors P Eq (ask question) (ask question) :=
  mirrors_effect (.ask question) (.ask question) h (.ask question) fun _ _ => Eq.symm

theorem mirrors_pause {l l' : StepLabel} {delay : Duration} (h : P (.pause l delay))
    (hl : l.Moved l') : Mirrors P Eq (pause l delay) (pause l' delay) :=
  mirrors_effect (.pause l delay) (.pause l' delay) h (.pause hl delay) fun _ _ _ => rfl

theorem mirrors_pick {places : List Nat} (h : P (.pick places)) :
    Mirrors P Eq (pick places) (pick places) :=
  mirrors_effect (.pick places) (.pick places) h (.pick places) fun _ _ => Eq.symm

theorem mirrors_clock (h : P .clock) : Mirrors P (fun _ _ => True) clock clock :=
  mirrors_effect .clock .clock h .clock fun _ _ _ => trivial

theorem mirrors_millisecondsSince (h : P .clock) (start start' : Timestamp) :
    Mirrors P (fun _ _ => True) (millisecondsSince start) (millisecondsSince start') :=
  (mirrors_clock h).bind fun _ _ _ => mirrors_pure trivial

end Task

open Runbook.Task (Mirrors)

/-! ### Workspaces at other places -/

namespace Workspace

/-- Workspaces with the same variables, facts and choices. -/
structure SameValues (w w' : Workspace) : Prop where
  vars : w'.vars = w.vars
  facts : w'.facts = w.facts
  choices : w'.choices = w.choices

/-- Workspaces that no template and no condition tells apart. -/
structure Resembles (w w' : Workspace) : Prop extends w.SameValues w' where
  lastOutcome : w'.lastOutcome? = w.lastOutcome?

/-- Workspaces with the same values, each of which has the outcomes of another one. -/
structure Tracks (w w' v v' : Workspace) : Prop extends v.SameValues v' where
  outcomes : v.outcomes = w.outcomes
  last : v.last = w.last
  outcomes' : v'.outcomes = w'.outcomes
  last' : v'.last = w'.last

/-- Workspaces that have got the same outcome, each in a slot of its own. -/
inductive Settles (w w' : Workspace) (slot slot' : Nat) : Workspace → Workspace → Prop where
  | intro {v v'} (h : Tracks w w' v v') (o : StepOutcome) :
    Settles w w' slot slot' (v.setOutcome slot o) (v'.setOutcome slot' o)

variable {w w' v v' : Workspace}

theorem SameValues.value? (h : w.SameValues w') (name : String) : w'.value? name = w.value? name := by
  simp only [Workspace.value?, variableNamed?, factNamed?, h.vars, h.facts]

theorem SameValues.substitute (h : w.SameValues w') (text : String) :
    Template.substitute w' text = Template.substitute w text := by
  have hfill : Template.Piece.fill w' = Template.Piece.fill w := by
    funext piece
    cases piece with
    | character c => rfl
    | placeholder spelling name =>
      simp only [Template.Piece.fill, binding?, h.value?, choiceNamed?, h.choices]
  rw [Template.substitute, Template.substitute, hfill]

theorem SameValues.tracks (h : w.SameValues w') : Tracks w w' w w' := ⟨h, rfl, rfl, rfl, rfl⟩

theorem Settles.sameValues {slot slot' : Nat} (h : Settles w w' slot slot' v v') :
    v.SameValues v' := by
  obtain ⟨h, _⟩ := h
  exact ⟨h.vars, h.facts, h.choices⟩

namespace Tracks

variable (h : Tracks w w' v v')

include h

theorem setVariable (name value : String) :
    Tracks w w' (v.setVariable name value) (v'.setVariable name value) :=
  { h with vars := congrArg (·.bind name value) h.vars }

theorem setFact (name : String) (value : Fact) :
    Tracks w w' (v.setFact name value) (v'.setFact name value) :=
  { h with facts := congrArg (·.bind name value) h.facts }

theorem setChoice (name value : String) :
    Tracks w w' (v.setChoice name value) (v'.setChoice name value) :=
  { h with choices := congrArg (·.bind name value) h.choices }

theorem merge {b b' : Workspace} (hb : b.SameValues b') :
    Tracks w w' (v.merge b) (v'.merge b') :=
  { h with
    vars := congrArg₂ Bindings.union h.vars hb.vars
    facts := congrArg₂ Bindings.union h.facts hb.facts }

theorem applyCaptures (rules : List CaptureRule) (lines : List String) :
    (∃ x x', RunStep.applyCaptures rules lines v = .ok x ∧
      RunStep.applyCaptures rules lines v' = .ok x' ∧ Tracks w w' x x') ∨
    RunStep.applyCaptures rules lines v = .error .overflow ∧
      RunStep.applyCaptures rules lines v' = .error .overflow := by
  unfold RunStep.applyCaptures
  induction rules generalizing v v' with
  | nil => exact .inl ⟨v, v', rfl, rfl, h⟩
  | cons rule rest ih =>
    rw [List.foldlM_cons, List.foldlM_cons]
    rcases rule.extraction.apply lines with ⟨⟨⟩⟩ | _ | value
    · exact .inr ⟨rfl, rfl⟩
    · exact ih h
    · exact ih (h.setVariable rule.variableName value)

end Tracks

end Workspace

open Workspace (SameValues Resembles Tracks Settles)

/-! ### Conditions -/

namespace Condition

variable {w w' : Workspace} {root : Option FilePath} {index : Nat} {branch : Option Nat}

mutual

theorem mirrors_evaluate (h : w.Resembles w') (c : Condition) :
    Mirrors (Effect.IsWork index branch) Eq
      (evaluate w (fun path => Task.check (located root path)) c)
      (evaluate w' (fun path => Task.check (located root path)) c) := by
  cases c with
  | fileExists path => exact Task.mirrors_check trivial
  | varExists name =>
    exact Task.mirrors_pure (by rw [Workspace.isBound, Workspace.isBound, h.vars, h.facts])
  | varEquals expected =>
    refine Task.mirrors_pure (congrArg expected.all (funext fun entry => ?_))
    rw [valueIs, valueIs, h.value?]
  | hasVar name =>
    exact Task.mirrors_pure (by rw [Workspace.isBound, Workspace.isBound, h.vars, h.facts])
  | factStatus fact expected =>
    refine Task.mirrors_pure (congrArg (· == expected) ?_)
    rw [Workspace.factStatus, Workspace.factStatus, Workspace.factNamed?, Workspace.factNamed?,
      h.facts]
  | lastStep success => exact Task.mirrors_pure (by rw [h.lastOutcome])
  | choiceMade option => exact Task.mirrors_pure (by rw [h.choices])
  | all conditions => exact mirrors_evaluateAll h conditions
  | any conditions => exact mirrors_evaluateAny h conditions
  | not condition =>
    refine (mirrors_evaluate h condition).bind fun _ _ heq => Task.mirrors_pure ?_
    rw [heq]

theorem mirrors_evaluateAll (h : w.Resembles w') (cs : List Condition) :
    Mirrors (Effect.IsWork index branch) Eq
      (evaluateAll w (fun path => Task.check (located root path)) cs)
      (evaluateAll w' (fun path => Task.check (located root path)) cs) := by
  cases cs with
  | nil => exact Task.mirrors_pure rfl
  | cons c rest =>
    refine (mirrors_evaluate h c).bind fun holds _ heq => ?_
    subst heq
    cases holds with
    | true => exact mirrors_evaluateAll h rest
    | false => exact Task.mirrors_pure rfl

theorem mirrors_evaluateAny (h : w.Resembles w') (cs : List Condition) :
    Mirrors (Effect.IsWork index branch) Eq
      (evaluateAny w (fun path => Task.check (located root path)) cs)
      (evaluateAny w' (fun path => Task.check (located root path)) cs) := by
  cases cs with
  | nil => exact Task.mirrors_pure rfl
  | cons c rest =>
    refine (mirrors_evaluate h c).bind fun holds _ heq => ?_
    subst heq
    cases holds with
    | true => exact Task.mirrors_pure rfl
    | false => exact mirrors_evaluateAny h rest

end

end Condition

section Steps

variable {scope scope' : RunScope} (hscope : scope.SharesSettings scope') {index : Nat}
  {branch : Option Nat} {w w' : Workspace}

include hscope

theorem Step.mirrors_isDue (hw : w.Resembles w') (guard : Option Condition) :
    Mirrors (Effect.IsWork index branch) Eq (isDue guard scope w) (isDue guard scope' w') := by
  unfold isDue
  rw [hscope.directory]
  cases guard with
  | none => exact Task.mirrors_pure rfl
  | some c => exact Condition.mirrors_evaluate hw c

/-! ### Run steps -/

namespace RunStep

theorem mirrors_attempt {r r' : CommandRequest} (hr : r.Moved r') (retry : Retry)
    (made : UInt32) (bound : Nat) : Mirrors (Effect.IsWork r.label.index r.label.branch) Eq
      (attempt scope r retry made bound) (attempt scope' r' retry made bound) := by
  induction bound generalizing made with
  | zero => exact .halted
  | succ bound ih =>
    refine (Task.mirrors_command ⟨rfl, rfl⟩ trivial hr).bind fun o _ heq => ?_
    subst heq
    -- what follows the display, which only some modes have
    have again : ∀ next next' : Task CommandOutcome,
        next = (if o.success || !retry.allows made then pure o else do
          Task.record (.stepRetried r.label.index r.label.branch (Word.following made).toNat
            (scope.backoff.delay (Word.following made).toNat).milliseconds)
          Task.pause r.label (scope.backoff.delay (Word.following made).toNat)
          attempt scope r retry (Word.following made) bound) →
        next' = (if o.success || !retry.allows made then pure o else do
          Task.record (.stepRetried r'.label.index r'.label.branch (Word.following made).toNat
            (scope'.backoff.delay (Word.following made).toNat).milliseconds)
          Task.pause r'.label (scope'.backoff.delay (Word.following made).toNat)
          attempt scope' r' retry (Word.following made) bound) →
        Mirrors (Effect.IsWork r.label.index r.label.branch) Eq next next' := by
      rintro _ _ rfl rfl
      rw [hscope.backoff]
      split
      · exact Task.mirrors_pure rfl
      · refine (Task.mirrors_record ⟨rfl, rfl, nofun⟩ _).bind fun _ _ _ => ?_
        exact (Task.mirrors_pause trivial hr.label).bind fun _ _ _ => ih (Word.following made)
    dsimp only
    rw [hr.mode]
    split
    · refine (Task.mirrors_display trivial (.bufferedResult hr.label o)).bind fun _ _ _ => ?_
      exact again _ _ rfl rfl
    · exact again _ _ rfl rfl

theorem mirrors_attempts {r r' : CommandRequest} (hr : r.Moved r') (retry : Retry) :
    Mirrors (Effect.IsWork r.label.index r.label.branch) Eq (attempts scope r retry)
      (attempts scope' r' retry) := by
  rw [attempts, attempts, hscope.patience]
  exact mirrors_attempt hscope hr retry 0 _

theorem mirrors_fallBack {r r' : CommandRequest} (hr : r.Moved r') (hw : w.SameValues w')
    (fallbacks : List Fallback) (last : CommandOutcome) (level : Nat) :
    Mirrors (Effect.IsWork r.label.index r.label.branch) Eq (fallBack scope w r last level fallbacks)
      (fallBack scope' w' r' last level fallbacks) := by
  induction fallbacks generalizing last level with
  | nil => exact Task.mirrors_pure rfl
  | cons f rest ih =>
    simp only [fallBack, hw.substitute]
    refine (Task.mirrors_record ⟨rfl, rfl, by simp⟩ _).bind fun _ _ _ => ?_
    have hcommand := hr.withCommand (Template.substitute w f.command) f.timeout
    refine (mirrors_attempts hscope hcommand f.retry).bind fun o _ heq => ?_
    subst heq
    split
    · exact Task.mirrors_pure rfl
    · exact ih o (level + 1)

variable {label label' : StepLabel} (hlabel : label.Moved label')

include hlabel

theorem moved_request (step : RunStep) (hw : w.SameValues w') :
    (step.request scope label w).Moved (step.request scope' label' w') where
  command := hw.substitute step.command
  shell := by simp only [request, hscope.shell]
  directory := hscope.directory
  timeout := rfl
  mode := by simp only [request, mode, hlabel.branch]
  label := ⟨hlabel.branch, hlabel.kind, hw.substitute step.command, hlabel.conditional⟩

theorem mirrors_execute (step : RunStep) (hw : w.SameValues w') :
    Mirrors (Effect.IsWork label.index label.branch)
      (fun result result' => result'.outcome = result.outcome ∧
        Tracks w w' result.workspace result'.workspace)
      (step.execute scope label w) (step.execute scope' label' w') := by
  have hr := moved_request hscope hlabel step hw
  refine (mirrors_attempts hscope hr step.retry).bind fun o _ heq => ?_
  subst heq
  split
  · rcases hw.tracks.applyCaptures step.captures o.stdout with ⟨x, x', hx, hx', h⟩ | ⟨hx, hx'⟩
    · rw [hx, hx']
      exact Task.mirrors_pure ⟨rfl, h⟩
    · rw [hx, hx']
      exact .halted
  · refine (mirrors_fallBack hscope hr hw step.fallbacks o 1).bind fun final _ heq => ?_
    exact Task.mirrors_pure ⟨heq.symm, hw.tracks⟩

omit hscope hlabel in
theorem isWork_closing (label : StepLabel) (command : String) (o : CommandOutcome)
    (milliseconds : Nat) : Effect.IsWork label.index label.branch
      (.record (closing label command o milliseconds)) := by
  unfold closing
  cases o.success with
  | true => exact ⟨rfl, rfl, nofun⟩
  | false => exact ⟨rfl, rfl, nofun⟩

theorem mirrors_take (step : RunStep) (hw : w.SameValues w') (slot slot' : Nat) :
    Mirrors (Effect.IsWork label.index label.branch)
      (fun result result' => result'.outcome = result.outcome ∧
        Settles w w' slot slot' result.workspace result'.workspace)
      (step.take scope label slot w) (step.take scope' label' slot' w') := by
  refine (Task.mirrors_clock trivial).bind fun start start' _ => ?_
  refine (mirrors_execute hscope hlabel step hw).bind fun result result' hresult => ?_
  obtain ⟨o, v⟩ := result
  obtain ⟨o', v'⟩ := result'
  obtain ⟨rfl, hv⟩ := hresult
  refine (Task.mirrors_millisecondsSince trivial _ _).bind fun n n' _ => ?_
  refine (Task.mirrors_record (isWork_closing label _ _ _) _).bind fun _ _ _ => ?_
  exact Task.mirrors_pure ⟨rfl, .intro hv _⟩

end RunStep

/-! ### Steps that do a single thing -/

/-- Ends of steps: both fail or both do not, with the same values, and either none of them has an
outcome or both have the same, each in a slot of its own. -/
def StepEnd.Matches (w w' : Workspace) (slot slot' : Nat) (e e' : StepEnd) : Prop :=
  e'.failure.isSome = e.failure.isSome ∧ (Tracks w w' e.workspace e'.workspace ∨
    Settles w w' slot slot' e.workspace e'.workspace)

namespace Step

variable {label label' : StepLabel} (hlabel : label.Moved label')

omit hscope in
theorem mirrors_complete {v v' : Workspace} (hv : Tracks w w' v v') (resolved : ResolvedValue)
    (start start' : Timestamp) : Mirrors (Effect.IsWork label.index none)
      (StepEnd.Matches w w' label.index label'.index) (complete label resolved start v)
      (complete label' resolved start' v') := by
  refine (Task.mirrors_millisecondsSince trivial _ _).bind fun n n' _ => ?_
  refine (Task.mirrors_record ⟨rfl, rfl, nofun⟩ _).bind fun _ _ _ => ?_
  exact Task.mirrors_pure ⟨rfl, .inr (.intro hv _)⟩

omit hscope in
theorem mirrors_unanswered (hw : w.SameValues w') (cause : String) (start start' : Timestamp) :
    Mirrors (Effect.IsWork label.index none) (StepEnd.Matches w w' label.index label'.index)
      (unanswered label cause start w) (unanswered label' cause start' w') := by
  refine (Task.mirrors_millisecondsSince trivial _ _).bind fun n n' _ => ?_
  refine (Task.mirrors_record ⟨rfl, rfl, nofun⟩ _).bind fun _ _ _ => ?_
  exact Task.mirrors_pure ⟨by simp, .inl hw.tracks⟩

theorem mirrors_valueOrAnswer {P : Effect → Prop} (name : String) {question : Question}
    (h : P (.ask question)) : Mirrors P Eq (valueOrAnswer scope name question)
      (valueOrAnswer scope' name question) := by
  unfold valueOrAnswer
  rw [hscope.given]
  split
  · exact Task.mirrors_pure rfl
  · exact Task.mirrors_ask h

/-- A question is asked and answered in the same way wherever it stands. -/
theorem mirrors_question (hw : w.SameValues w') (name : String) (question : Question)
    (make : String → ResolvedValue) {bound bound' : String → Workspace}
    (hbound : ∀ value, Tracks w w' (bound value) (bound' value)) :
    Mirrors (Effect.IsStepWork label.index True) (StepEnd.Matches w w' label.index label'.index)
      (do
        let start ← Task.clock
        match ← valueOrAnswer scope name question with
        | .ok value => complete label (make value) start.time (bound value)
        | .error cause => unanswered label cause start.time w)
      (do
        let start ← Task.clock
        match ← valueOrAnswer scope' name question with
        | .ok value => complete label' (make value) start.time (bound' value)
        | .error cause => unanswered label' cause start.time w') := by
  have hwork : ∀ c : Effect, c.IsWork label.index none → c.IsStepWork label.index True :=
    fun c hc => .inl ⟨none, hc⟩
  refine (Task.mirrors_clock (hwork _ trivial)).bind fun start start' _ => ?_
  have hasks : Effect.IsStepWork label.index True (.ask question) :=
    .inr (.inr ⟨trivial, question, rfl⟩)
  refine (mirrors_valueOrAnswer hscope name hasks).bind fun answer _ heq => ?_
  subst heq
  cases answer with
  | ok value => exact (mirrors_complete (hbound value) _ _ _).mono hwork fun _ _ => id
  | error cause => exact (mirrors_unanswered hw cause _ _).mono hwork fun _ _ => id

include hlabel

omit hscope in
theorem mirrors_fail (message : String) (hw : w.SameValues w') (slot slot' : Nat) :
    Mirrors (Effect.IsWork label.index label.branch)
      (fun e e' => StepEnd.Matches w w' slot slot' e e' ∧ e.workspace.SameValues e'.workspace)
      (fail message label slot w) (fail message label' slot' w') := by
  unfold fail
  rw [hw.substitute, hlabel.branch]
  refine (Task.mirrors_record ⟨rfl, rfl, nofun⟩ _).bind fun _ _ _ => ?_
  have hsettles : Settles w w' slot slot' _ _ := .intro hw.tracks ⟨false, none⟩
  exact Task.mirrors_pure ⟨⟨rfl, .inr hsettles⟩, hsettles.sameValues⟩

theorem mirrors_act (action : Action) (hw : w.SameValues w') :
    Mirrors (Effect.IsStepWork label.index action.asks)
      (StepEnd.Matches w w' label.index label'.index) (act action scope label w)
      (act action scope' label' w') := by
  have hwork : ∀ asks (c : Effect), c.IsWork label.index label.branch →
      c.IsStepWork label.index asks := fun _ c hc => .inl ⟨_, hc⟩
  cases action with
  | run step =>
    have htake := (RunStep.mirrors_take hscope hlabel step hw label.index label'.index).mono
      (hwork False) fun _ _ => id
    refine htake.bind fun result result' hresult => ?_
    obtain ⟨houtcome, hsettles⟩ := hresult
    refine Task.mirrors_pure ⟨?_, .inr hsettles⟩
    simp only [houtcome]
    split <;> simp
  | choose step =>
    simp only [act, choose, hw.substitute]
    exact mirrors_question hscope hw step.variableName _ .choice fun id =>
      (hw.tracks.setChoice id id).setVariable step.variableName id
  | prompt step =>
    simp only [act, prompt, hw.substitute, funext hw.substitute]
    exact mirrors_question hscope hw step.storeAs _ .prompt fun value =>
      (hw.tracks.setVariable step.storeAs value).setFact step.storeAs (.text value)
  | fail message =>
    exact (mirrors_fail hlabel message hw _ _).mono (hwork False) fun _ _ => And.left

end Step

/-! ### Branches -/

namespace Branch

/-- What branches came to: both could not be taken, or both succeeded or did not, with the same
values. -/
def Matches : Except String End → Except String End → Prop
  | .ok e, .ok e' => e'.success = e.success ∧ e.workspace.SameValues e'.workspace
  | .error _, .error _ => True
  | _, _ => False

theorem mirrors_take {label label' : StepLabel} (hlabel : label.Moved label') {branch : Nat}
    (hbranch : label.branch = some branch) (hw : w.Resembles w') (b : Branch) :
    Mirrors (Effect.IsWork label.index label.branch) Matches (b.take scope label branch w)
      (b.take scope' label' branch w') := by
  refine (Step.mirrors_isDue hscope hw b.guard).bind fun due _ heq => ?_
  subst heq
  cases due with
  | true =>
    rw [if_pos rfl, if_pos rfl]
    cases b.action with
    | run step =>
      refine (RunStep.mirrors_take hscope hlabel step hw.toSameValues _ _).bind
        fun result result' hresult => ?_
      obtain ⟨houtcome, hsettles⟩ := hresult
      exact Task.mirrors_pure ⟨by rw [houtcome], hsettles.sameValues⟩
    | fail message =>
      refine (Step.mirrors_fail hlabel message hw.toSameValues _ _).bind fun e e' he => ?_
      exact Task.mirrors_pure ⟨rfl, he.2⟩
    | choose _ => exact Task.mirrors_pure trivial
    | prompt _ => exact Task.mirrors_pure trivial
  | false =>
    rw [if_neg (by simp), if_neg (by simp)]
    refine (Task.mirrors_display trivial (.stepSkipped hlabel)).bind fun _ _ _ => ?_
    refine (Task.mirrors_record ⟨rfl, hbranch.symm, nofun⟩ _).bind fun _ _ _ => ?_
    exact Task.mirrors_pure ⟨rfl, hw.toSameValues⟩

end Branch

end Steps

/-! ### Pools -/

namespace Pool

open Program

section Lists

variable {α β : Type} {R : α → β → Prop} {l : List α} {l' : List β}

theorem forall₂_set (h : List.Forall₂ R l l') (i : Nat) {a : α} {b : β} (hab : R a b) :
    List.Forall₂ R (l.set i a) (l'.set i b) := by
  induction h generalizing i with
  | nil => exact .nil
  | cons hhead htail ih =>
    cases i with
    | zero => exact .cons hab htail
    | succ i => exact .cons hhead (ih i)

theorem forall₂_getElem? (h : List.Forall₂ R l l') (i : Nat) :
    (l[i]? = none ∧ l'[i]? = none) ∨ ∃ a b, l[i]? = some a ∧ l'[i]? = some b ∧ R a b := by
  induction h generalizing i with
  | nil => exact .inl ⟨rfl, rfl⟩
  | cons hhead _ ih =>
    cases i with
    | zero => exact .inr ⟨_, _, rfl, rfl, hhead⟩
    | succ i => simpa using ih i

end Lists

variable {α β : Type} {P : Effect → Prop} {R : α → β → Prop} {ps : List (Task α)}
  {ps' : List (Task β)}

theorem waiting_eq (h : List.Forall₂ (Mirrors P R) ps ps') : waiting ps' = waiting ps := by
  unfold waiting
  generalize 0 = start
  induction h generalizing start with
  | nil => rfl
  | cons hp _ ih =>
    cases hp with
    | done _ => simpa [List.zipIdx_cons, result?] using ih (start + 1)
    | halted => simpa [List.zipIdx_cons, result?] using ih (start + 1)
    | perform _ _ _ => simpa [List.zipIdx_cons, result?] using ih (start + 1)

theorem forall₂_results (h : List.Forall₂ (Mirrors P R) ps ps') :
    List.Forall₂ R (ps.filterMap result?) (ps'.filterMap result?) := by
  induction h with
  | nil => exact .nil
  | cons hp _ ih =>
    cases hp with
    | done hr => simpa [result?] using ⟨hr, ih⟩
    | halted =>
      rw [List.filterMap_cons_none rfl, List.filterMap_cons_none rfl]
      exact ih
    | perform _ _ _ =>
      rw [List.filterMap_cons_none rfl, List.filterMap_cons_none rfl]
      exact ih

theorem findSome?_halt?_eq (h : List.Forall₂ (Mirrors P R) ps ps') :
    ps'.findSome? halt? = ps.findSome? halt? := by
  induction h with
  | nil => rfl
  | cons hp _ ih =>
    cases hp with
    | done _ => exact ih
    | halted => rfl
    | perform _ _ _ => exact ih

theorem mirrors_join (hpick : ∀ places, P (.pick places))
    (h : List.Forall₂ (Mirrors P R) ps ps') (turns : Nat) :
    Mirrors P (List.Forall₂ R) (join Task.pick ps turns) (join Task.pick ps' turns) := by
  induction turns generalizing ps ps' with
  | zero => exact .halted
  | succ turns ih =>
    rw [join, join, findSome?_halt?_eq h, waiting_eq h]
    cases ps.findSome? halt? with
    | some why => exact .halted
    | none =>
      cases waiting ps with
      | nil => exact Task.mirrors_pure (forall₂_results h)
      | cons first others =>
        refine (Task.mirrors_pick (hpick _)).bind fun picked _ heq => ?_
        subst heq
        dsimp only
        generalize (if (first :: others).contains picked then picked else first) = place
        rcases forall₂_getElem? h place with ⟨hp, hp'⟩ | ⟨p, p', hp, hp', hmirrors⟩
        · rw [hp, hp']
          exact .halted
        · rw [hp, hp']
          cases hmirrors with
          | done _ => exact .halted
          | halted => exact .halted
          | perform hc hmoved hnext =>
            refine .perform hc hmoved fun reply reply' hagree => ?_
            exact ih (forall₂_set h place (hnext reply reply' hagree))

end Pool

/-! ### Steps -/

namespace Run

theorem mergeBranches_matches {w w' v v' : Workspace} (hv : Tracks w w' v v')
    {ends ends' : List (Except String Branch.End)} (h : List.Forall₂ Branch.Matches ends ends')
    (success : Bool) :
    (∃ cause cause' x x', mergeBranches success v ends = (.error cause, x) ∧
      mergeBranches success v' ends' = (.error cause', x') ∧ Tracks w w' x x') ∨
    ∃ all x x', mergeBranches success v ends = (.ok all, x) ∧
      mergeBranches success v' ends' = (.ok all, x') ∧ Tracks w w' x x' := by
  induction h generalizing success v v' with
  | nil => exact .inr ⟨success, v, v', rfl, rfl, hv⟩
  | @cons e e' _ _ he _ ih =>
    match e, e', he with
    | .error cause, .error cause', _ => exact .inl ⟨cause, cause', v, v', rfl, rfl, hv⟩
    | .ok e, .ok e', ⟨hsuccess, hvalues⟩ =>
      rw [mergeBranches, mergeBranches, hsuccess]
      exact ih (hv.merge hvalues) _

variable {scope scope' : RunScope} (hscope : scope.SharesSettings scope') {w w' : Workspace}

include hscope

theorem mirrors_branchTasks (hw : w.Resembles w') (branches : List Branch) (index index' : Nat) :
    List.Forall₂ (Mirrors (Effect.IsStepWork index False) Branch.Matches)
      (branchTasks scope branches index w) (branchTasks scope' branches index' w') := by
  rw [branchTasks, branchTasks, List.forall₂_map_left_iff, List.forall₂_map_right_iff]
  refine List.forall₂_same.mpr fun entry _ => ?_
  obtain ⟨b, branch⟩ := entry
  have hlabel : (branchLabel scope b index branch w).Moved
      (branchLabel scope' b index' branch w') := by
    refine ⟨rfl, rfl, ?_, rfl⟩
    cases haction : b.action <;> simp [branchLabel, actionText, haction, hw.substitute]
  exact (Branch.mirrors_take hscope hlabel rfl hw b).mono (fun _ hc => .inl ⟨_, hc⟩) fun _ _ => id

theorem mirrors_takeParallel (bounds : RunBounds) {label label' : StepLabel}
    (hlabel : label.Moved label') (hw : w.Resembles w') (branches : List Branch) :
    Mirrors (Effect.IsStepWork label.index False)
      (StepEnd.Matches w w' label.index label'.index) (takeParallel bounds scope branches label w)
      (takeParallel bounds scope' branches label' w') := by
  have hwork : ∀ c : Effect, c.IsWork label.index none → c.IsStepWork label.index False :=
    fun c hc => .inl ⟨none, hc⟩
  refine (Task.mirrors_display (hwork _ trivial) (.parallelStarted hlabel _)).bind fun _ _ _ => ?_
  have hopening : Effect.IsStepWork label.index False
      (.record (.parallelStarted label.index branches.length)) := hwork _ ⟨rfl, rfl, nofun⟩
  refine (Task.mirrors_record hopening _).bind fun _ _ _ => ?_
  refine (Pool.mirrors_join (fun places => .inr (.inl ⟨places, rfl⟩))
    (mirrors_branchTasks hscope hw branches _ _) _).bind fun ends ends' hends => ?_
  rcases mergeBranches_matches hw.toSameValues.tracks hends true with
    ⟨cause, cause', x, x', hmerge, hmerge', hx⟩ | ⟨all, x, x', hmerge, hmerge', hx⟩
  · rw [hmerge, hmerge']
    exact Task.mirrors_pure ⟨by simp, .inl hx⟩
  · rw [hmerge, hmerge']
    refine (Task.mirrors_display (hwork _ trivial) (.parallelFinished hlabel all)).bind
      fun _ _ _ => ?_
    have hclosing : Effect.IsStepWork label.index False
        (.record (.parallelFinished label.index all)) := hwork _ ⟨rfl, rfl, nofun⟩
    refine (Task.mirrors_record hclosing _).bind fun _ _ _ => ?_
    exact Task.mirrors_pure ⟨by cases all <;> simp, .inr (.intro hx _)⟩

omit hscope

def takeDue (bounds : RunBounds) (scope : RunScope) (step : Step) (index : Nat) (w : Workspace) :
    Task StepEnd :=
  match step.body with
  | .action action => Step.act action scope (stepLabel scope step index w) w
  | .parallel branches => takeParallel bounds scope branches (stepLabel scope step index w) w

theorem takeStep_eq (bounds : RunBounds) (scope : RunScope) (step : Step) (index : Nat)
    (w : Workspace) : takeStep bounds scope step index w =
      Step.isDue step.guard scope w >>= fun due =>
        if due then takeDue bounds scope step index w
        else skip (stepLabel scope step index w) w := rfl

include hscope

/-- A step that is taken does the same at any place, in workspaces that no template and no condition
tells apart. -/
theorem mirrors_takeDue (bounds : RunBounds) (hw : w.Resembles w') (step : Step)
    (index index' : Nat) :
    Mirrors (Effect.IsStepWork index step.body.asks) (StepEnd.Matches w w' index index')
      (takeDue bounds scope step index w) (takeDue bounds scope' step index' w') := by
  have hlabel : (stepLabel scope step index w).Moved (stepLabel scope' step index' w') := by
    refine ⟨rfl, rfl, ?_, rfl⟩
    cases hbody : step.body with
    | action action =>
      cases action <;> simp [stepLabel, stepText, actionText, hbody, hw.substitute]
    | parallel branches => simp [stepLabel, stepText, hbody]
  unfold takeDue
  cases step.body with
  | action action => exact Step.mirrors_act hscope hlabel action hw.toSameValues
  | parallel branches => exact mirrors_takeParallel hscope bounds hlabel hw branches

omit hscope

/-- What a step comes down to: it is skipped, or it is due and taken. -/
inductive StepPassed (bounds : RunBounds) (scope : RunScope) (step : Step) (index : Nat)
    (w : Workspace) : RunTrace → StepEnd → Prop where
  | skipped {checks stamp} (hdue : Runs (Step.isDue step.guard scope w) checks false) :
    StepPassed bounds scope step index w (checks ++
      [⟨.display (.stepSkipped (stepLabel scope step index w)), ()⟩,
        ⟨.record (.stepSkipped index none), stamp⟩]) ⟨none, w⟩
  | taken {checks es e} (hdue : Runs (Step.isDue step.guard scope w) checks true)
      (h : Runs (takeDue bounds scope step index w) es e) :
    StepPassed bounds scope step index w (checks ++ es) e

variable {bounds : RunBounds} {step : Step} {index : Nat} {es : RunTrace} {e : StepEnd}

theorem stepPassed_of_runs (h : Runs (takeStep bounds scope step index w) es e) :
    StepPassed bounds scope step index w es e := by
  obtain ⟨checks, due, tail, rfl, hdue, htail⟩ := Program.runs_bind.mp h
  cases due with
  | true => exact .taken hdue htail
  | false =>
    obtain ⟨stamp, rfl, rfl⟩ := Task.runs_noting htail
    exact .skipped hdue

theorem sharesSettings_refl (scope : RunScope) : scope.SharesSettings scope :=
  ⟨rfl, rfl, rfl, rfl, rfl⟩

theorem resembles_refl (w : Workspace) : w.Resembles w := ⟨⟨rfl, rfl, rfl⟩, rfl⟩

theorem isStepWork_of_runs_takeDue (h : Runs (takeDue bounds scope step index w) es e) :
    ∀ x ∈ es, x.call.IsStepWork index step.body.asks :=
  (mirrors_takeDue (sharesSettings_refl scope) bounds (resembles_refl w) step index index).calls h

end Run

end Runbook
