import Mathlib.Logic.Function.Basic
import Runbook.Proofs.StoreContract

/-!
Threads that make requests to one store, on a system that they share. A step is one call of one
thread; the lock is taken by one thread at a time. What is known of the system is that readings of
the store's file are true, that files beside it are files of their own, and that a rename puts one
in its place at once or not at all. Main statement: the calls of a thread inside the lock come to
what the contract says.
-/

namespace Runbook

/-- A system with files: its states, what it may reply to a call in a state and the state after
that, and the text that a file holds. -/
structure FileSystem where
  State : Type
  Answers : State → (c : SystemCall) → c.Reply → State → Prop
  text? : State → FilePath → Option String

namespace FileSystem

variable (system : FileSystem)

def IsName (name : String) : Prop := ∃ s t, system.Answers s .freshName name t

/-- What a store relies on. Any request may be refused. -/
structure Serves (store : ScheduleStore) : Prop where
  read {s t : system.State} {reply : Except SystemError String}
    (h : system.Answers s (.read store.path) reply t) : system.text? t = system.text? s ∧
      (∀ text, reply = .ok text → system.text? s store.path = some text) ∧
      (reply = .error .notFound → system.text? s store.path = none)
  write {s t : system.State} {path : FilePath} {text : String} {reply : Except SystemError Unit}
    (hpath : store.IsStaging system.IsName path) (h : system.Answers s (.write path text) reply t) :
    system.text? t store.path = system.text? s store.path ∧
      (reply = .ok () → system.text? t path = some text)
  /-- A file takes the place of the store's file at once, or the store's file stays. -/
  rename {s t : system.State} {path : FilePath} {reply : Except SystemError Unit}
    (hpath : store.IsStaging system.IsName path)
    (h : system.Answers s (.rename path store.path) reply t) :
    (reply = .ok () → system.text? t store.path = system.text? s path) ∧
      ∀ e, reply = .error e → system.text? t store.path = system.text? s store.path
  remove {s t : system.State} {path : FilePath} {reply : Except SystemError Unit}
    (hpath : store.IsStaging system.IsName path) (h : system.Answers s (.remove path) reply t) :
    system.text? t store.path = system.text? s store.path
  makeDirectories {s t : system.State} {path : FilePath} {reply : Except SystemError Unit}
    (hpath : store.path.parent? = some path) (h : system.Answers s (.makeDirectories path) reply t) :
    system.text? t = system.text? s
  processId {s t : system.State} {reply : Nat} (h : system.Answers s .processId reply t) :
    system.text? t = system.text? s
  now {s t : system.State} {time : Timestamp} (h : system.Answers s .now time t) :
    time.IsShown ∧ system.text? t = system.text? s
  freshName {s t : system.State} {name : String} (h : system.Answers s .freshName name t) :
    system.text? t = system.text? s

end FileSystem

namespace ScheduleStore

/-- The file with the text keeps the schedules; a file that is missing keeps none. -/
def Keeping (schedules : List Schedule) : Option String → Prop
  | some text => Schedule.readFile? text = some schedules
  | none => schedules = []

theorem isTimed_of_keeping {schedules : List Schedule} {file : Option String}
    (h : Keeping schedules file) : ∀ s ∈ schedules, s.IsTimed := by
  cases file with
  | some text => exact Schedule.isTimed_of_readFile? h
  | none =>
    obtain rfl : schedules = [] := h
    simp

/-! ### Calls inside the lock -/

section

variable {system : FileSystem} {store : ScheduleStore} {s t : system.State} {d : Draft}

/-- What a program inside the lock has come to is what the files of the system are. -/
structure Describes (system : FileSystem) (store : ScheduleStore) (s : system.State) (d : Draft) :
    Prop where
  file : Keeping d.schedules (system.text? s store.path)
  staged : ∀ path text, d.staged = some (path, text) → system.text? s path = some text
  unwritten : d.written = none

theorem Describes.noting (h : Describes system store s d) (c : SystemCall) (reply : c.Reply) :
    Describes system store s (d.noting c reply) := by
  refine ⟨?_, ?_, ?_⟩
  · rw [Draft.schedules_noting]
    exact h.file
  · rw [Draft.staged_noting]
    exact h.staged
  · rw [Draft.written_noting]
    exact h.unwritten

theorem readsAs_of_answers (hsystem : system.Serves store) {schedules : List Schedule}
    (hfile : Keeping schedules (system.text? s store.path)) {reply : Except SystemError String}
    (h : system.Answers s (.read store.path) reply t) : ReadsAs schedules reply := by
  obtain ⟨-, hok, hmissing⟩ := hsystem.read h
  cases reply with
  | ok text =>
    rw [hok text rfl] at hfile
    exact hfile
  | error e =>
    rintro rfl
    rw [hmissing rfl] at hfile
    exact hfile

/-- A call that is not the last one inside the lock leaves the file as it is. -/
structure Goes (system : FileSystem) (store : ScheduleStore) (s t : system.State) (d : Draft) :
    Prop where
  describes : Describes system store t d
  file : system.text? t store.path = system.text? s store.path

theorem goes_of_eq (hd : Describes system store s d) (hsame : system.text? t = system.text? s) :
    Goes system store s t d := by
  refine ⟨⟨?_, ?_, hd.unwritten⟩, congrFun hsame store.path⟩
  · rw [hsame]
    exact hd.file
  · rw [hsame]
    exact hd.staged

theorem goes_unstage (hd : Describes system store s d)
    (hfile : system.text? t store.path = system.text? s store.path) :
    Goes system store s t d.unstage := by
  refine ⟨⟨?_, fun path text h => (by cases h), hd.unwritten⟩, hfile⟩
  rw [hfile]
  exact hd.file

/-- What a call inside the lock comes to: either the file stays as it is, or it has the text that
was put in its place. -/
theorem exists_follows (hsystem : system.Serves store) (hd : Describes system store s d)
    {c : SystemCall} (hallows : store.AllowsInside system.IsName d c) {reply : c.Reply}
    (h : system.Answers s c reply t) :
    ∃ next, FollowsInside system.IsName (d.noting c reply) c reply next ∧
      next.schedules = d.schedules ∧ next.refusals = (d.noting c reply).refusals ∧
      (Goes system store s t next ∨
        ∃ text, next.written = some text ∧ system.text? t store.path = some text) := by
  have hnoting : Describes system store s (d.noting c reply) := hd.noting c reply
  cases c with
  | read path =>
    obtain rfl : path = store.path := hallows
    exact ⟨_, ⟨readsAs_of_answers hsystem hnoting.file h, rfl⟩, d.schedules_noting _ _, rfl,
      .inl (goes_of_eq hnoting (hsystem.read h).1)⟩
  | write path text =>
    obtain ⟨hfile, hstaged⟩ := hsystem.write hallows h
    cases reply with
    | ok u =>
      refine ⟨d.stage path text, rfl, rfl, rfl, .inl ⟨⟨hfile ▸ hd.file, ?_, hd.unwritten⟩, hfile⟩⟩
      rintro _ _ ⟨⟩
      exact hstaged rfl
    | error e => exact ⟨_, rfl, rfl, rfl, .inl (goes_unstage hnoting hfile)⟩
  | rename source target =>
    obtain ⟨rfl, hstaging, text, hstaged⟩ := hallows
    obtain ⟨hok, herror⟩ := hsystem.rename hstaging h
    cases reply with
    | ok u =>
      exact ⟨d.write text, ⟨text, hstaged, rfl⟩, rfl, rfl, .inr ⟨text, rfl,
        (hok rfl).trans (hd.staged source text hstaged)⟩⟩
    | error e => exact ⟨_, rfl, rfl, rfl, .inl (goes_unstage hnoting (herror e rfl))⟩
  | remove path =>
    exact ⟨_, rfl, rfl, rfl, .inl (goes_unstage hnoting (hsystem.remove hallows h))⟩
  | makeDirectories path =>
    exact ⟨_, rfl, d.schedules_noting _ _, rfl,
      .inl (goes_of_eq hnoting (hsystem.makeDirectories hallows h))⟩
  | processId => exact ⟨d, rfl, rfl, rfl, .inl (goes_of_eq hd (hsystem.processId h))⟩
  | now =>
    obtain ⟨hshown, hsame⟩ := hsystem.now h
    exact ⟨d, ⟨hshown, rfl⟩, rfl, rfl, .inl (goes_of_eq hd hsame)⟩
  | freshName =>
    exact ⟨d, ⟨⟨s, t, h⟩, rfl⟩, rfl, rfl, .inl (goes_of_eq hd (hsystem.freshName h))⟩
  | _ => exact hallows.elim

end

/-! ### Threads -/

/-- What a thread is doing: nothing, or what is left of a request. -/
inductive Activity where
  | idle
  | busy (r : StoreRequest) (rest : Procedure r.Outcome)

inductive Event (ι : Type) where
  | begins (thread : ι) (r : StoreRequest)
  | calls (thread : ι) (exchange : Exchange SystemCall.interface)
  | ends (thread : ι) (r : StoreRequest) (outcome : r.Outcome)

/-- Threads on a system, and the one that holds the lock. -/
structure Threads (system : FileSystem) (ι : Type) where
  state : system.State
  holder : Option ι
  activity : ι → Activity

namespace Threads

variable {system : FileSystem} {ι : Type}

def start (s : system.State) : Threads system ι := ⟨s, none, fun _ => .idle⟩

variable [DecidableEq ι]

def setActivity (w : Threads system ι) (i : ι) (a : Activity) : Threads system ι :=
  { w with activity := Function.update w.activity i a }

@[simp] theorem setActivity_state (w : Threads system ι) (i : ι) (a : Activity) :
    (w.setActivity i a).state = w.state := rfl

@[simp] theorem setActivity_holder (w : Threads system ι) (i : ι) (a : Activity) :
    (w.setActivity i a).holder = w.holder := rfl

/-- A step of one thread. It begins any request when it has none; it waits for the lock until no
thread holds it. -/
inductive Step (store : ScheduleStore) : Threads system ι → Event ι → Threads system ι → Prop
  | begins {w : Threads system ι} {i : ι} {r : StoreRequest} (hidle : w.activity i = .idle)
    (htimed : r.IsTimed) :
    Step store w (.begins i r) (w.setActivity i (.busy r (r.procedure store).run))
  | locks {w : Threads system ι} {i : ι} {r : StoreRequest} {next : Unit → Procedure r.Outcome}
    (hbusy : w.activity i =
      .busy r (.perform (I := SystemCall.interface) SystemCall.lock next))
    (hfree : w.holder = none) :
    Step store w (.calls i ⟨SystemCall.lock, ()⟩)
      { w.setActivity i (.busy r (next ())) with holder := some i }
  | unlocks {w : Threads system ι} {i : ι} {r : StoreRequest} {next : Unit → Procedure r.Outcome}
    (hbusy : w.activity i =
      .busy r (.perform (I := SystemCall.interface) SystemCall.unlock next)) :
    Step store w (.calls i ⟨SystemCall.unlock, ()⟩)
      { w.setActivity i (.busy r (next ())) with holder := none }
  | calls {w : Threads system ι} {i : ι} {r : StoreRequest} {c : SystemCall}
    {next : c.Reply → Procedure r.Outcome} {reply : c.Reply} {t : system.State}
    (hbusy : w.activity i = .busy r (.perform (I := SystemCall.interface) c next))
    (hlock : c ≠ .lock) (hunlock : c ≠ .unlock) (hanswers : system.Answers w.state c reply t) :
    Step store w (.calls i ⟨c, reply⟩)
      { w.setActivity i (.busy r (next reply)) with state := t }
  | ends {w : Threads system ι} {i : ι} {r : StoreRequest} {outcome : r.Outcome}
    (hbusy : w.activity i = .busy r (.done outcome)) :
    Step store w (.ends i r outcome) (w.setActivity i .idle)

inductive Run (store : ScheduleStore) (w : Threads system ι) :
    List (Event ι) → Threads system ι → Prop
  | start : Run store w [] w
  | step {events : List (Event ι)} {u v : Threads system ι} {e : Event ι}
    (hrun : Run store w events u) (hstep : Step store u e v) : Run store w (events ++ [e]) v

end Threads

end ScheduleStore

end Runbook
