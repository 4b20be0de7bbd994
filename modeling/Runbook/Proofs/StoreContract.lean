import Runbook.Proofs.Contract
import Runbook.Proofs.ScheduleText
import Runbook.Schedule.Store

/-!
Requests to a store of schedules: what each of them does to the list of schedules that the store's
file keeps, and what the programs of a store keep to. Inside the lock a program reads the file,
fills a file beside it, and puts that one in its place as the last thing it does. Main statements: a
request that ends in an error writes nothing; requests leave the names of the schedules distinct and
their times such as a clock shows; every request that may change the file is a program inside the
lock that keeps to this and ends in what the request performs; every other request is one reading of
the file.
-/

namespace Runbook

/-! ## What requests perform -/

/-- A file that the system has refused, and why. -/
structure Refusal where
  path : FilePath
  cause : String

/-- What the system refuses by its reply, if anything. A file that is to be read and is missing is
not refused. -/
def SystemCall.refusal? : (c : SystemCall) → c.Reply → Option Refusal
  | .read _, .error .notFound => none
  | .read path, .error e => some ⟨path, e.message⟩
  | .write path _, .error e => some ⟨path, e.message⟩
  | .rename _ target, .error e => some ⟨target, e.message⟩
  | .makeDirectories path, .error e => some ⟨path, e.message⟩
  | _, _ => none

inductive StoreRequest where
  | add (new : NewSchedule)
  | remove (id : String)
  | toggle (id : String)
  | recordRun (id : String) (time : Timestamp)
  | load
  | find (id : String)

namespace StoreRequest

abbrev Answer : StoreRequest → Type
  | .add _ => Schedule
  | .remove _ => Bool
  | .toggle _ => Schedule
  | .recordRun _ _ => Unit
  | .load => List Schedule
  | .find _ => Option Schedule

abbrev Outcome (r : StoreRequest) : Type := Except ScheduleError r.Answer

def procedure (store : ScheduleStore) : (r : StoreRequest) → ScheduleProcedure r.Answer
  | .add new => store.add new
  | .remove id => store.remove id
  | .toggle id => store.toggle id
  | .recordRun id time => store.recordRun id time
  | .load => store.load
  | .find id => store.find? id

def isChange : StoreRequest → Bool
  | .load => false
  | .find _ => false
  | _ => true

def IsTimed : StoreRequest → Prop
  | .recordRun _ time => time.IsShown
  | _ => True

/-- What a request may come to where the file keeps the schedules, and the schedules that it writes
in their place, if it writes any. It fails on a file only if the system has refused it one. -/
inductive Performs (refusals : List Refusal) :
    (r : StoreRequest) → List Schedule → r.Outcome → Option (List Schedule) → Prop
  | add {new : NewSchedule} {schedules : List Schedule} {id : String} {now : Timestamp}
    (hid : ∀ s ∈ schedules, s.id ≠ id) :
    Performs refusals (.add new) schedules (.ok (new.toSchedule id now))
      (some (schedules ++ [new.toSchedule id now]))
  | remove {id : String} {schedules : List Schedule} (hid : ∃ s ∈ schedules, s.id = id) :
    Performs refusals (.remove id) schedules (.ok true) (some (schedules.filter fun s => s.id != id))
  | removeNothing {id : String} {schedules : List Schedule} (hid : ∀ s ∈ schedules, s.id ≠ id) :
    Performs refusals (.remove id) schedules (.ok false) none
  | toggle {front back : List Schedule} {s : Schedule} :
    Performs refusals (.toggle s.id) (front ++ s :: back) (.ok { s with enabled := !s.enabled })
      (some (front ++ { s with enabled := !s.enabled } :: back))
  | toggleNothing {id : String} {schedules : List Schedule} (hid : ∀ s ∈ schedules, s.id ≠ id) :
    Performs refusals (.toggle id) schedules (.error (.notFound id)) none
  | recordRun {front back : List Schedule} {s : Schedule} {time : Timestamp} :
    Performs refusals (.recordRun s.id time) (front ++ s :: back) (.ok ())
      (some (front ++ { s with lastRun := some time } :: back))
  | recordRunNothing {id : String} {time : Timestamp} {schedules : List Schedule}
    (hid : ∀ s ∈ schedules, s.id ≠ id) :
    Performs refusals (.recordRun id time) schedules (.error (.notFound id)) none
  | load {schedules : List Schedule} : Performs refusals .load schedules (.ok schedules) none
  | find {id : String} {schedules : List Schedule} :
    Performs refusals (.find id) schedules (.ok (schedules.find? fun s => s.id == id)) none
  | refused {r : StoreRequest} {schedules : List Schedule} {path : FilePath} {cause : String}
    (h : ⟨path, cause⟩ ∈ refusals) : Performs refusals r schedules (.error (.io path cause)) none

variable {refusals : List Refusal} {r : StoreRequest} {schedules others : List Schedule}
  {outcome : r.Outcome} {written : Option (List Schedule)}

theorem written_eq_none_of_error {e : ScheduleError}
    (h : Performs refusals r schedules (.error e) written) : written = none := by
  cases h <;> rfl

theorem mem_refusals_of_io {path : FilePath} {cause : String}
    (h : Performs refusals r schedules (.error (.io path cause)) written) :
    ⟨path, cause⟩ ∈ refusals := by
  cases h with
  | refused h => exact h

theorem written_eq_none_of_removeNothing {id : String}
    (h : Performs refusals (.remove id) schedules (.ok false) written) : written = none := by
  cases h
  rfl

theorem Performs.nodup (h : Performs refusals r schedules outcome (some others))
    (hnodup : (schedules.map Schedule.id).Nodup) : (others.map Schedule.id).Nodup := by
  cases h with
  | add hid =>
    rw [List.map_append, List.map_singleton, List.nodup_append]
    refine ⟨hnodup, by simp, ?_⟩
    intro id hmem other hother
    obtain ⟨s, hs, rfl⟩ := List.mem_map.mp hmem
    rw [List.mem_singleton.mp hother]
    exact hid s hs
  | remove hid => exact hnodup.sublist (List.filter_sublist.map Schedule.id)
  | toggle => simpa using hnodup
  | recordRun => simpa using hnodup

end StoreRequest

namespace Schedule

variable {id : String} {f : Schedule → Schedule} {schedules : List Schedule}

theorem change?_eq_none_iff : change? id f schedules = none ↔ ∀ s ∈ schedules, s.id ≠ id := by
  induction schedules with
  | nil => simp [change?]
  | cons s schedules ih =>
    by_cases hs : s.id = id
    · simp [change?, hs]
    · simp [change?, hs, ih]

theorem exists_of_change? {changed : Schedule} {others : List Schedule}
    (h : change? id f schedules = some (changed, others)) : ∃ front s back, s.id = id ∧
      schedules = front ++ s :: back ∧ changed = f s ∧ others = front ++ f s :: back ∧
      ∀ other ∈ front, other.id ≠ id := by
  induction schedules generalizing others with
  | nil => cases h
  | cons s schedules ih =>
    by_cases hs : s.id = id
    · rw [change?, if_pos hs] at h
      obtain ⟨rfl, rfl⟩ := Prod.mk.inj (Option.some.inj h)
      exact ⟨[], s, schedules, hs, rfl, rfl, rfl, by simp⟩
    · rw [change?, if_neg hs] at h
      obtain ⟨⟨t, rest⟩, hrest, heq⟩ := Option.map_eq_some_iff.mp h
      obtain ⟨rfl, rfl⟩ := Prod.mk.inj heq
      obtain ⟨front, u, back, hu, rfl, rfl, rfl, hfront⟩ := ih hrest
      exact ⟨s :: front, u, back, hu, rfl, rfl, rfl, List.forall_mem_cons.mpr ⟨hs, hfront⟩⟩

theorem length_without_eq_iff :
    (without id schedules).length = schedules.length ↔ ∀ s ∈ schedules, s.id ≠ id := by
  simp [without, List.length_filter_eq_length_iff]

end Schedule

/-! ## What programs keep to -/

open Program

namespace Procedure

variable {α β : Type}

/-- What is left of a procedure inside the lock once it has its result. -/
def leaving (a : α) : Procedure α :=
  .perform (I := SystemCall.interface) SystemCall.unlock fun _ => .done a

theorem locked_eq (p : Procedure α) : Procedure.locked p =
    .perform (I := SystemCall.interface) SystemCall.lock fun _ => andThen leaving p := rfl

/-- What comes after the lock and makes no calls may as well be done inside it. -/
theorem locked_andThen (p : Procedure α) (f : α → β) :
    andThen (fun a => .done (f a)) (Procedure.locked p) =
      Procedure.locked (andThen (fun a => .done (f a)) p) := by
  rw [locked_eq, locked_eq, andThen_assoc, andThen, andThen_assoc]
  rfl

end Procedure

theorem ScheduleProcedure.keeps_request {S α : Type} {K : Contract SystemCall.interface S} {s : S}
    {path : FilePath} {c : Procedure (Except SystemError α)}
    {post : S → Except ScheduleError α → Prop}
    (h : Keeps K (fun t r => match r with
      | .ok a => post t (.ok a)
      | .error e => post t (.error (.io path e.message))) s c) :
    Keeps K post s (ScheduleProcedure.request path c).run := by
  refine keeps_bind.mpr (h.mono fun t r hr => ?_)
  cases r with
  | ok a => exact hr
  | error e => exact hr

namespace ScheduleStore

open ScheduleProcedure (keeps_request)

/-- What a text that is read, or the error instead of one, says of a file that keeps the
schedules. -/
def ReadsAs (schedules : List Schedule) : Except SystemError String → Prop
  | .ok text => Schedule.readFile? text = some schedules
  | .error e => e = .notFound → schedules = []

/-- What a program inside the lock has come to: the schedules that the file keeps, the file that is
filled beside it with its text, the text that was put in the place of the file, and what the system
has refused. -/
structure Draft where
  schedules : List Schedule
  staged : Option (FilePath × String)
  written : Option String
  refusals : List Refusal

namespace Draft

variable (d : Draft)

/-- Before anything was done. -/
def begun (schedules : List Schedule) : Draft := ⟨schedules, none, none, []⟩

def refuse (refusal : Refusal) : Draft := { d with refusals := d.refusals ++ [refusal] }

def noting (c : SystemCall) (reply : c.Reply) : Draft := (c.refusal? reply).elim d d.refuse

theorem refusals_noting (c : SystemCall) (reply : c.Reply) :
    (d.noting c reply).refusals = d.refusals ++ (c.refusal? reply).toList := by
  unfold noting
  cases c.refusal? reply <;> simp [refuse]

@[simp] theorem schedules_noting (c : SystemCall) (reply : c.Reply) :
    (d.noting c reply).schedules = d.schedules := by
  unfold noting
  cases c.refusal? reply <;> rfl

@[simp] theorem staged_noting (c : SystemCall) (reply : c.Reply) :
    (d.noting c reply).staged = d.staged := by
  unfold noting
  cases c.refusal? reply <;> rfl

@[simp] theorem written_noting (c : SystemCall) (reply : c.Reply) :
    (d.noting c reply).written = d.written := by
  unfold noting
  cases c.refusal? reply <;> rfl

def stage (path : FilePath) (text : String) : Draft := { d with staged := some (path, text) }

def unstage : Draft := { d with staged := none }

def write (text : String) : Draft := { d with staged := none, written := some text }

end Draft

variable (store : ScheduleStore) (IsName : String → Prop)

/-- The path of a file that is filled before it takes the place of the store's file. -/
def IsStaging (path : FilePath) : Prop :=
  ∃ process unique, IsName unique ∧ path = store.path.withFileName (store.stagingName process unique)

def AllowsInside (d : Draft) : SystemCall → Prop
  | .read path => path = store.path
  | .write path _ => store.IsStaging IsName path
  | .rename source target => target = store.path ∧ store.IsStaging IsName source ∧
    ∃ text, d.staged = some (source, text)
  | .remove path => store.IsStaging IsName path
  | .makeDirectories path => store.path.parent? = some path
  | .processId => True
  | .now => True
  | .freshName => True
  | _ => False

/-- What the calls of a program inside the lock come to. -/
def FollowsInside (d : Draft) : (c : SystemCall) → c.Reply → Draft → Prop
  | .read _, reply, next => ReadsAs d.schedules reply ∧ next = d
  | .write path text, .ok _, next => next = d.stage path text
  | .write _ _, .error _, next => next = d.unstage
  | .rename source _, .ok _, next => ∃ text, d.staged = some (source, text) ∧ next = d.write text
  | .rename _ _, .error _, next => next = d.unstage
  | .remove _, _, next => next = d.unstage
  | .now, time, next => time.IsShown ∧ next = d
  | .freshName, name, next => IsName name ∧ next = d
  | _, _, next => next = d

/-- A program inside the lock is over once it has put a text in the place of the file. -/
def contract : Contract SystemCall.interface Draft where
  Allows d c := d.written = none ∧ store.AllowsInside IsName d c
  Follows d c reply next := FollowsInside IsName (d.noting c reply) c reply next
  MayHalt d _ := d.written = none

variable {store IsName} {d : Draft}

/-! ### Parts of the programs -/

def loaded (store : ScheduleStore) :
    Except SystemError String → Except ScheduleError (List Schedule)
  | .error .notFound => .ok []
  | .error e => .error (.io store.path e.message)
  | .ok text =>
    match Schedule.readFile? text with
    | some schedules => .ok schedules
    | none => .error .serialization

theorem load_run : store.load.run = .perform (I := SystemCall.interface)
    (SystemCall.read store.path) fun reply => .done (store.loaded reply) := by
  refine congrArg (Program.perform (I := SystemCall.interface) _) (funext fun reply => ?_)
  cases reply with
  | ok text =>
    simp only [andThen, loaded]
    cases Schedule.readFile? text <;> rfl
  | error e => cases e <;> rfl

theorem find?_run (id : String) : (store.find? id).run = .perform (I := SystemCall.interface)
    (SystemCall.read store.path) fun reply =>
      .done ((store.loaded reply).map fun schedules => schedules.find? fun s => s.id == id) := by
  have hrun : (store.find? id).run = andThen
      (fun r => .done (r.map fun schedules => schedules.find? fun s => s.id == id))
      store.load.run := by
    refine congrArg (fun f => andThen f _) (funext fun r => ?_)
    cases r <;> rfl
  rw [hrun, load_run]
  rfl

variable (store) in
theorem loaded_of_readsAs {schedules : List Schedule} {reply : Except SystemError String}
    (h : ReadsAs schedules reply) : store.loaded reply = .ok schedules ∨
      ∃ cause, store.loaded reply = .error (.io store.path cause) ∧
        (SystemCall.read store.path).refusal? reply = some ⟨store.path, cause⟩ := by
  cases reply with
  | ok text =>
    have hread : Schedule.readFile? text = some schedules := h
    exact .inl (by simp [loaded, hread])
  | error e =>
    cases e with
    | notFound => exact .inl (by simp [loaded, show schedules = [] from h rfl])
    | _ => exact .inr ⟨_, rfl, rfl⟩

theorem keeps_load (hd : d.written = none)
    {post : Draft → Except ScheduleError (List Schedule) → Prop}
    (hok : ∀ t, t.schedules = d.schedules → t.written = none → post t (.ok d.schedules))
    (herror : ∀ t cause, t.written = none → ⟨store.path, cause⟩ ∈ t.refusals →
      post t (.error (.io store.path cause))) :
    Keeps (store.contract IsName) post d store.load.run := by
  rw [load_run]
  refine ⟨⟨hd, rfl⟩, ?_⟩
  rintro reply t ⟨hreads, rfl⟩
  rw [keeps_done]
  rw [Draft.schedules_noting] at hreads
  rcases store.loaded_of_readsAs hreads with hloaded | ⟨cause, hloaded, hrefusal⟩
  · rw [hloaded]
    exact hok _ (d.schedules_noting _ _) ((d.written_noting _ _).trans hd)
  · rw [hloaded]
    refine herror _ cause ((d.written_noting _ _).trans hd) ?_
    simp [Draft.refusals_noting, hrefusal]

theorem keeps_freshId (hd : d.written = none) (schedules : List Schedule) (attempts : Nat)
    {post : Draft → String → Prop} (hpost : ∀ id, (∀ s ∈ schedules, s.id ≠ id) → post d id) :
    Keeps (store.contract IsName) post d (Schedule.freshId schedules attempts) := by
  induction attempts with
  | zero => exact hd
  | succ attempts ih =>
    refine keeps_bind.mpr (keeps_call.mpr ⟨⟨hd, trivial⟩, ?_⟩)
    rintro name t ⟨-, rfl⟩
    dsimp only
    split
    next => exact ih
    next hfree =>
      refine hpost _ fun s hs heq => hfree ?_
      exact List.any_eq_true.mpr ⟨s, hs, beq_iff_eq.mpr heq⟩

theorem keeps_replace (hd : d.written = none) {staging : FilePath}
    (hstaging : store.IsStaging IsName staging) (text : String)
    {post : Draft → Except ScheduleError Unit → Prop}
    (hok : ∀ t, t.schedules = d.schedules → t.written = some text → post t (.ok ()))
    (herror : ∀ t path cause, t.written = none → ⟨path, cause⟩ ∈ t.refusals →
      post t (.error (.io path cause))) :
    Keeps (store.contract IsName) post d (store.replace staging text).run := by
  -- What is left of the staged file is removed after an error, whichever call came to it.
  have hremove : ∀ t path cause, t.written = none → ⟨path, cause⟩ ∈ t.refusals →
      Keeps (store.contract IsName) post t (do
        let _ ← Procedure.remove staging
        return .error (.io path cause)) := by
    intro t path cause ht hrefusal
    refine keeps_bind.mpr (keeps_call.mpr ⟨⟨ht, hstaging⟩, ?_⟩)
    rintro reply t rfl
    exact herror _ path cause ht hrefusal
  refine keeps_bind.mpr (keeps_except_bind (keeps_request
    (keeps_call.mpr ⟨⟨hd, hstaging⟩, fun reply t ht => ?_⟩)))
  cases reply with
  | error e =>
    obtain rfl : t = (d.refuse ⟨staging, e.message⟩).unstage := ht
    exact hremove _ staging e.message hd List.mem_concat_self
  | ok u =>
    obtain rfl : t = d.stage staging text := ht
    refine keeps_request (keeps_call.mpr ⟨⟨hd, rfl, hstaging, text, rfl⟩, fun reply t ht => ?_⟩)
    cases reply with
    | error e =>
      obtain rfl : t = ((d.stage staging text).refuse ⟨store.path, e.message⟩).unstage := ht
      exact hremove _ store.path e.message hd List.mem_concat_self
    | ok u =>
      obtain ⟨other, hother, rfl⟩ := ht
      obtain rfl : text = other := (Prod.mk.inj (Option.some.inj hother)).2
      exact hok _ rfl rfl

theorem keeps_write (hd : d.written = none) (schedules : List Schedule)
    {post : Draft → Except ScheduleError Unit → Prop}
    (hok : ∀ t, t.schedules = d.schedules → t.written = some (Schedule.fileText schedules) →
      post t (.ok ()))
    (herror : ∀ t path cause, t.written = none → ⟨path, cause⟩ ∈ t.refusals →
      post t (.error (.io path cause))) :
    Keeps (store.contract IsName) post d (store.write schedules).run := by
  have hreplace : Keeps (store.contract IsName) post d (do
      let name := store.stagingName (← Procedure.processId) (← Procedure.freshName)
      (store.replace (store.path.withFileName name) (Schedule.fileText schedules)).run) := by
    refine keeps_bind.mpr (keeps_call.mpr ⟨⟨hd, trivial⟩, ?_⟩)
    rintro process t rfl
    refine keeps_bind.mpr (keeps_call.mpr ⟨⟨hd, trivial⟩, ?_⟩)
    rintro unique t ⟨hname, rfl⟩
    exact keeps_replace hd ⟨process, unique, hname, rfl⟩ _ hok herror
  unfold write
  cases hparent : store.path.parent? with
  | none => exact hreplace
  | some directory =>
    refine keeps_except_bind (keeps_request (keeps_call.mpr ⟨⟨hd, hparent⟩, ?_⟩))
    rintro reply t rfl
    cases reply with
    | error e => exact herror _ directory e.message hd List.mem_concat_self
    | ok u => exact hreplace

/-! ### Whole requests -/

/-- What a request has come to inside the lock. -/
def Finished (r : StoreRequest) (schedules : List Schedule) (d : Draft) (outcome : r.Outcome) :
    Prop :=
  ∃ written, r.Performs d.refusals schedules outcome written ∧ d.written = written.map Schedule.fileText ∧
    ∀ others ∈ written, ∀ s ∈ others, s.IsTimed

/-- A program inside the lock keeps to the contract and ends in what the request performs,
whatever schedules the file keeps. -/
def KeepsInside (store : ScheduleStore) (IsName : String → Prop) (r : StoreRequest)
    (body : Procedure r.Outcome) : Prop :=
  ∀ schedules : List Schedule, (∀ s ∈ schedules, s.IsTimed) →
    Keeps (store.contract IsName) (Finished r schedules) (.begun schedules) body

def IsLocked (store : ScheduleStore) (IsName : String → Prop) (r : StoreRequest) : Prop :=
  ∃ body, (r.procedure store).run = Procedure.locked body ∧ KeepsInside store IsName r body

theorem isLocked_add (new : NewSchedule) : IsLocked store IsName (.add new) := by
  refine ⟨_, rfl, fun schedules htimed => keeps_except_bind (keeps_load rfl ?_ ?_)⟩
  · intro t _ hwritten
    refine keeps_except_bind (keeps_lift (keeps_freshId hwritten _ _ fun id hid => ?_))
    refine keeps_except_bind (keeps_lift (keeps_call.mpr ⟨⟨hwritten, trivial⟩, ?_⟩))
    rintro now t ⟨hnow, rfl⟩
    refine keeps_except_bind (keeps_write hwritten _ (fun t _ ht => ?_)
      fun t path cause ht hrefusal => ?_)
    · refine ⟨_, .add hid, ht, ?_⟩
      rintro others ⟨⟩ s hs
      rcases List.mem_append.mp hs with hs | hs
      · exact htimed s hs
      · rw [List.mem_singleton.mp hs]
        exact ⟨hnow, fun time htime => by cases htime⟩
    · exact ⟨none, .refused hrefusal, ht, fun _ h => by cases h⟩
  · intro t cause ht hrefusal
    exact ⟨none, .refused hrefusal, ht, fun _ h => by cases h⟩

theorem isLocked_remove (id : String) : IsLocked store IsName (.remove id) := by
  refine ⟨_, rfl, fun schedules htimed => keeps_except_bind (keeps_load rfl ?_ ?_)⟩
  · intro t _ hwritten
    dsimp only
    split
    next hlen =>
      exact ⟨none, .removeNothing (Schedule.length_without_eq_iff.mp hlen), hwritten,
        fun _ h => by cases h⟩
    next hlen =>
      have hid : ∃ s ∈ schedules, s.id = id := by
        by_contra hnone
        exact hlen (Schedule.length_without_eq_iff.mpr fun s hs heq => hnone ⟨s, hs, heq⟩)
      refine keeps_except_bind (keeps_write hwritten _ (fun t _ ht => ?_)
        fun t path cause ht hrefusal => ?_)
      · refine ⟨_, .remove hid, ht, ?_⟩
        rintro others ⟨⟩ s hs
        exact htimed s (List.mem_of_mem_filter hs)
      · exact ⟨none, .refused hrefusal, ht, fun _ h => by cases h⟩
  · intro t cause ht hrefusal
    exact ⟨none, .refused hrefusal, ht, fun _ h => by cases h⟩

theorem isLocked_of_change {r : StoreRequest} (id : String) (f : Schedule → Schedule)
    (answer : Schedule → r.Answer)
    (hrun : (r.procedure store).run =
      (store.change id f).run.andThen fun a => .done (a.map answer))
    (hchange : ∀ refusals front s back, s.id = id →
      r.Performs refusals (front ++ s :: back) (.ok (answer (f s))) (some (front ++ f s :: back)))
    (hnothing : ∀ refusals schedules, (∀ s ∈ schedules, s.id ≠ id) →
      r.Performs refusals schedules (.error (.notFound id)) none)
    (htimes : ∀ s, s.IsTimed → (f s).IsTimed) : IsLocked store IsName r := by
  refine ⟨_, hrun.trans (Procedure.locked_andThen _ _), fun schedules htimed =>
    keeps_andThen.mpr (keeps_except_bind (keeps_load rfl ?_ ?_))⟩
  · intro t _ hwritten
    cases hresult : Schedule.change? id f schedules with
    | none =>
      have hid := Schedule.change?_eq_none_iff.mp hresult
      simp only [Draft.begun, hresult]
      exact ⟨none, hnothing _ schedules hid, hwritten, fun _ h => by cases h⟩
    | some result =>
      obtain ⟨changed, others⟩ := result
      simp only [Draft.begun, hresult]
      obtain ⟨front, s, back, hs, rfl, rfl, rfl, -⟩ := Schedule.exists_of_change? hresult
      refine keeps_except_bind (keeps_write hwritten _ (fun t _ ht => ?_)
        fun t path cause ht hrefusal => ?_)
      · refine ⟨_, hchange _ front s back hs, ht, ?_⟩
        rintro others ⟨⟩ u hu
        rcases List.mem_append.mp hu with hu | hu
        · exact htimed u (List.mem_append_left _ hu)
        · rcases List.mem_cons.mp hu with rfl | hu
          · exact htimes s (htimed s (by simp))
          · exact htimed u (List.mem_append_right _ (List.mem_cons_of_mem s hu))
      · exact ⟨none, .refused hrefusal, ht, fun _ h => by cases h⟩
  · intro t cause ht hrefusal
    exact ⟨none, .refused hrefusal, ht, fun _ h => by cases h⟩

theorem isLocked_toggle (id : String) : IsLocked store IsName (.toggle id) := by
  refine isLocked_of_change id Schedule.toggled (fun s => s) ?_ ?_ ?_ ?_
  · have hid : (fun a : Except ScheduleError Schedule => Program.done (a.map fun s => s)) =
        (Program.done : _ → Procedure _) := by
      funext a
      cases a <;> rfl
    exact (andThen_done _).symm.trans (by rw [hid]; rfl)
  · rintro refusals front s back rfl
    exact .toggle
  · exact fun refusals schedules hid => .toggleNothing hid
  · exact fun s hs => ⟨hs.createdAt, hs.lastRun⟩

theorem isLocked_recordRun (id : String) {time : Timestamp} (htime : time.IsShown) :
    IsLocked store IsName (.recordRun id time) := by
  refine isLocked_of_change id (fun s => { s with lastRun := some time }) (fun _ => ())
    ?_ ?_ ?_ ?_
  · change (store.recordRun id time).run = _
    unfold recordRun
    rw [ExceptT.run_bind]
    refine congrArg (fun f => andThen f _) ?_
    funext a
    cases a <;> rfl
  · rintro refusals front s back rfl
    exact .recordRun
  · exact fun refusals schedules hid => .recordRunNothing hid
  · exact fun s hs => ⟨hs.createdAt, fun t ht => Option.some.inj ht ▸ htime⟩

variable (store) in
/-- Every request that may change the file is a program inside the lock. -/
theorem isLocked_of_isChange {r : StoreRequest} (hr : r.isChange = true) (htimed : r.IsTimed) :
    IsLocked store IsName r := by
  cases r with
  | add new => exact isLocked_add new
  | remove id => exact isLocked_remove id
  | toggle id => exact isLocked_toggle id
  | recordRun id time => exact isLocked_recordRun id htimed
  | load => cases hr
  | find id => cases hr

variable (store) in
/-- Every other request is one reading of the file, whatever schedules it keeps. -/
theorem exists_read_of_not_isChange {r : StoreRequest} (hr : r.isChange = false) :
    ∃ next, (r.procedure store).run =
        .perform (I := SystemCall.interface) (SystemCall.read store.path) next ∧
      ∀ schedules reply, ReadsAs schedules reply →
        ∃ outcome, next reply = .done outcome ∧
          r.Performs ((SystemCall.read store.path).refusal? reply).toList schedules outcome none := by
  cases r with
  | load =>
    refine ⟨_, load_run, fun schedules reply h => ⟨_, rfl, ?_⟩⟩
    rcases store.loaded_of_readsAs h with hloaded | ⟨cause, hloaded, hrefusal⟩
    · rw [hloaded]
      exact .load
    · rw [hloaded, hrefusal]
      exact .refused List.mem_cons_self
  | find id =>
    refine ⟨_, find?_run id, fun schedules reply h => ⟨_, rfl, ?_⟩⟩
    rcases store.loaded_of_readsAs h with hloaded | ⟨cause, hloaded, hrefusal⟩
    · rw [hloaded]
      exact .find
    · rw [hloaded, hrefusal]
      exact .refused List.mem_cons_self
  | _ => cases hr

end ScheduleStore

end Runbook
