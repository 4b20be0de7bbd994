import Runbook.Proofs.FlatFiles

/-!
A store of schedules is a list of schedules on which requests are performed one at a time. Every
request takes effect once, between its beginning and its end: a change when its file is put in place,
a reading when the file is read, and what changes nothing when the lock is given back. Main
statement: whatever threads do, the store's file keeps the list that the requests performed in the
order of their effects lead to, which is the order of the lock for those that may change it; a
request fails on a file only if the system has refused it that file.
-/

namespace Runbook.ScheduleStore

/-- A request that has taken effect: what the system refused it, what it came to, and the schedules
that it wrote, if any. -/
structure Entry (ι : Type) where
  thread : ι
  request : StoreRequest
  refusals : List Refusal
  outcome : request.Outcome
  written : Option (List Schedule)

namespace Entry

variable {ι : Type}

/-- Performing requests one at a time leads from one list of schedules to another. -/
inductive Replays (first : List Schedule) : List (Entry ι) → List Schedule → Prop
  | nil : Replays first [] first
  | snoc {entries : List (Entry ι)} {schedules : List Schedule} {entry : Entry ι}
    (h : Replays first entries schedules)
    (hperforms : entry.request.Performs entry.refusals schedules entry.outcome entry.written) :
    Replays first (entries ++ [entry]) (entry.written.getD schedules)

theorem Replays.append {first middle last : List Schedule} {entries others : List (Entry ι)}
    (h : Replays first entries middle) (hothers : Replays middle others last) :
    Replays first (entries ++ others) last := by
  induction hothers with
  | nil => rwa [List.append_nil]
  | snoc hreplays hperforms ih =>
    rw [← List.append_assoc]
    exact ih.snoc hperforms

theorem replays_singleton {schedules : List Schedule} (entry : Entry ι)
    (h : entry.request.Performs entry.refusals schedules entry.outcome entry.written) :
    Replays schedules [entry] (entry.written.getD schedules) := Replays.nil.snoc h

/-- What a file holds after a request; it stays as it is if nothing is written. -/
def fileAfter (file : Option String) (entry : Entry ι) : Option String :=
  (entry.written.map Schedule.fileText).or file

def changeOrder (entries : List (Entry ι)) : List ι :=
  (entries.filter fun e => e.request.isChange).map Entry.thread

theorem changeOrder_append (entries others : List (Entry ι)) :
    changeOrder (entries ++ others) = changeOrder entries ++ changeOrder others := by
  simp [changeOrder]

end Entry

open Entry

def lockOrder {ι : Type} (events : List (Event ι)) : List ι :=
  events.filterMap fun
    | .calls i ⟨.lock, _⟩ => some i
    | _ => none

@[simp] def Event.thread {ι : Type} : Event ι → ι
  | .begins i _ => i
  | .calls i _ => i
  | .ends i _ _ => i

/-- Something that a thread does, or a request of it that takes effect. -/
inductive Moment (ι : Type) where
  | event (e : Event ι)
  | effect (entry : Entry ι)

namespace Moment

variable {ι : Type}

def thread : Moment ι → ι
  | .event e => e.thread
  | .effect entry => entry.thread

def event? : Moment ι → Option (Event ι)
  | .event e => some e
  | .effect _ => none

def effect? : Moment ι → Option (Entry ι)
  | .event _ => none
  | .effect entry => some entry

/-- What a thread has come to: it has no request, or one that has taken effect or not yet. -/
inductive Phase where
  | idle
  | begun (r : StoreRequest) (refusals : List Refusal)
  | answered (r : StoreRequest) (outcome : r.Outcome)

/-- A request that has not taken effect yet notes what the system refuses it. -/
def Phase.noting (x : Exchange SystemCall.interface) : Phase → Phase
  | .begun r refusals => .begun r (refusals ++ (x.call.refusal? x.reply).toList)
  | phase => phase

/-- Every request of a thread takes effect once, between its beginning and its end, and ends in what
it came to then. What it was refused is what the system has refused it since its beginning. -/
inductive Orderly (i : ι) : List (Moment ι) → Phase → Prop
  | nil : Orderly i [] .idle
  | other {moments : List (Moment ι)} {phase : Phase} {m : Moment ι} (h : Orderly i moments phase)
    (hm : m.thread ≠ i) : Orderly i (moments ++ [m]) phase
  | begins {moments : List (Moment ι)} (h : Orderly i moments .idle) (r : StoreRequest) :
    Orderly i (moments ++ [.event (.begins i r)]) (.begun r [])
  | calls {moments : List (Moment ι)} {phase : Phase} (h : Orderly i moments phase)
    (hphase : phase ≠ .idle) (x : Exchange SystemCall.interface) :
    Orderly i (moments ++ [.event (.calls i x)]) (phase.noting x)
  | effect {moments : List (Moment ι)} {r : StoreRequest} {refusals : List Refusal}
    (h : Orderly i moments (.begun r refusals)) (outcome : r.Outcome)
    (written : Option (List Schedule)) :
    Orderly i (moments ++ [.effect ⟨i, r, refusals, outcome, written⟩]) (.answered r outcome)
  | ends {moments : List (Moment ι)} {r : StoreRequest} {outcome : r.Outcome}
    (h : Orderly i moments (.answered r outcome)) :
    Orderly i (moments ++ [.event (.ends i r outcome)]) .idle

theorem Orderly.append_others {i : ι} {moments others : List (Moment ι)} {phase : Phase}
    (h : Orderly i moments phase) (hothers : ∀ m ∈ others, m.thread ≠ i) :
    Orderly i (moments ++ others) phase := by
  induction others generalizing moments with
  | nil => rwa [List.append_nil]
  | cons m others ih =>
    rw [List.append_cons]
    exact ih (h.other (hothers m List.mem_cons_self)) fun n hn =>
      hothers n (List.mem_cons_of_mem m hn)

end Moment

open Moment

/-! ### What holds at every moment -/

open Program

section

variable {ι : Type} {system : FileSystem} {store : ScheduleStore}

/-- What a thread does fits what it has come to, where the file keeps the schedules. -/
inductive InPhase (system : FileSystem) (store : ScheduleStore) (holder : Option ι)
    (s : system.State) (schedules : List Schedule) (i : ι) : Phase → Activity → Prop
  | idle (hholder : holder ≠ some i) : InPhase system store holder s schedules i .idle .idle
  | reads {r : StoreRequest} {p : Procedure r.Outcome} (hholder : holder ≠ some i)
    (hr : r.isChange = false) (hp : p = (r.procedure store).run) :
    InPhase system store holder s schedules i (.begun r []) (.busy r p)
  | waits {r : StoreRequest} {p : Procedure r.Outcome} (hholder : holder ≠ some i)
    (hr : r.isChange = true) (body : Procedure r.Outcome) (hp : p = Procedure.locked body)
    (hbody : KeepsInside store system.IsName r body) :
    InPhase system store holder s schedules i (.begun r []) (.busy r p)
  | works {r : StoreRequest} {p : Procedure r.Outcome} (hholder : holder = some i)
    (hr : r.isChange = true) (d : Draft) (body : Procedure r.Outcome)
    (hp : p = body.andThen Procedure.leaving) (hschedules : d.schedules = schedules)
    (hd : Describes system store s d)
    (hbody : Keeps (store.contract system.IsName) (Finished r schedules) d body) :
    InPhase system store holder s schedules i (.begun r d.refusals) (.busy r p)
  | leaves {r : StoreRequest} {p : Procedure r.Outcome} (hholder : holder = some i)
    (outcome : r.Outcome) (hp : p = Procedure.leaving outcome) :
    InPhase system store holder s schedules i (.answered r outcome) (.busy r p)
  | done {r : StoreRequest} {p : Procedure r.Outcome} (hholder : holder ≠ some i)
    (outcome : r.Outcome) (hp : p = .done outcome) :
    InPhase system store holder s schedules i (.answered r outcome) (.busy r p)

/-- A thread is not affected by what others do, if it does not hold the lock or they change no
file. -/
theorem InPhase.of_others {holder other : Option ι} {s t : system.State}
    {schedules others : List Schedule} {i : ι} {phase : Phase} {a : Activity}
    (h : InPhase system store holder s schedules i phase a)
    (hholder : other = some i ↔ holder = some i)
    (hsame : holder = some i → system.text? t = system.text? s ∧ others = schedules) :
    InPhase system store other t others i phase a := by
  cases h with
  | idle hne => exact .idle fun h => hne (hholder.mp h)
  | reads hne hr hp => exact .reads (fun h => hne (hholder.mp h)) hr hp
  | waits hne hr body hp hbody => exact .waits (fun h => hne (hholder.mp h)) hr body hp hbody
  | works heq hr d body hp hschedules hd hbody =>
    obtain ⟨htext, rfl⟩ := hsame heq
    exact .works (hholder.mpr heq) hr d body hp hschedules (goes_of_eq hd htext).describes hbody
  | leaves heq outcome hp => exact .leaves (hholder.mpr heq) outcome hp
  | done hne outcome hp => exact .done (fun h => hne (hholder.mp h)) outcome hp

/-! ### What a thread is about to do -/

section

variable {holder : Option ι} {s : system.State} {schedules : List Schedule} {i : ι} {phase : Phase}
  {r : StoreRequest}

theorem InPhase.of_idle (h : InPhase system store holder s schedules i phase .idle) :
    phase = .idle ∧ holder ≠ some i := by
  cases h with
  | idle hne => exact ⟨rfl, hne⟩

theorem procedure_ne_perform {c : SystemCall} {next : c.Reply → Procedure r.Outcome}
    (hr : r.isChange = false) (hc : c ≠ .read store.path) :
    .perform (I := SystemCall.interface) c next ≠ (r.procedure store).run := by
  obtain ⟨_, hrun, -⟩ := store.exists_read_of_not_isChange hr
  rw [hrun]
  intro h
  exact hc (Program.perform.inj h).1

theorem InPhase.of_locks {next : Unit → Procedure r.Outcome}
    (h : InPhase system store holder s schedules i phase
      (.busy r (.perform (I := SystemCall.interface) SystemCall.lock next)))
    (hfree : holder = none) : phase = .begun r [] ∧ r.isChange = true ∧
      ∃ body, next () = body.andThen Procedure.leaving ∧ KeepsInside store system.IsName r body := by
  cases h with
  | reads hne hr hp => exact absurd hp (procedure_ne_perform hr (by simp))
  | waits hne hr body hp hbody =>
    rw [Procedure.locked_eq] at hp
    obtain ⟨-, hnext⟩ := Program.perform.inj hp
    refine ⟨rfl, hr, body, ?_, hbody⟩
    rw [eq_of_heq hnext]
  | works heq hr d body hp hschedules hd hbody => simp [hfree] at heq
  | leaves heq outcome hp => simp [hfree] at heq
  | done hne outcome hp => cases hp

theorem InPhase.of_unlocks {next : Unit → Procedure r.Outcome}
    (h : InPhase system store holder s schedules i phase
      (.busy r (.perform (I := SystemCall.interface) SystemCall.unlock next))) :
    holder = some i ∧ ∃ outcome, next () = .done outcome ∧ (phase = .answered r outcome ∨
      ∃ refusals, phase = .begun r refusals ∧ r.isChange = true ∧
        r.Performs refusals schedules outcome none) := by
  cases h with
  | reads hne hr hp => exact absurd hp (procedure_ne_perform hr (by simp))
  | waits hne hr body hp hbody =>
    rw [Procedure.locked_eq] at hp
    cases (Program.perform.inj hp).1
  | works heq hr d body hp hschedules hd hbody =>
    cases body with
    | done outcome =>
      obtain ⟨-, hnext⟩ := Program.perform.inj hp
      obtain ⟨written, hperforms, hwritten, -⟩ := hbody
      rw [hd.unwritten] at hwritten
      obtain rfl : written = none := Option.map_eq_none_iff.mp hwritten.symm
      exact ⟨heq, outcome, by rw [eq_of_heq hnext], .inr ⟨d.refusals, rfl, hr, hperforms⟩⟩
    | halted why => cases hp
    | perform c k =>
      obtain ⟨rfl, -⟩ := Program.perform.inj hp
      exact hbody.1.2.elim
  | leaves heq outcome hp =>
    obtain ⟨-, hnext⟩ := Program.perform.inj hp
    exact ⟨heq, outcome, by rw [eq_of_heq hnext], .inl rfl⟩
  | done hne outcome hp => cases hp

/-- Once a text has been put in the place of the file, the program is over. -/
theorem done_of_written {d : Draft} {text : String} {body : Procedure r.Outcome}
    (h : Keeps (store.contract system.IsName) (Finished r schedules) d body)
    (hwritten : d.written = some text) : ∃ outcome others, body = .done outcome ∧
      r.Performs d.refusals schedules outcome (some others) ∧ text = Schedule.fileText others ∧
      ∀ s ∈ others, s.IsTimed := by
  cases body with
  | done outcome =>
    obtain ⟨written, hperforms, htext, htimed⟩ := h
    rw [hwritten] at htext
    obtain ⟨others, rfl, hothers⟩ := Option.map_eq_some_iff.mp htext.symm
    exact ⟨outcome, others, rfl, hperforms, hothers.symm, htimed others rfl⟩
  | halted why => cases hwritten.symm.trans h
  | perform c next => cases hwritten.symm.trans h.1.1

/-- A call that does not concern the lock reads the file for a request that changes nothing, goes on
with a change, or puts the changed schedules in the place of the file. -/
theorem InPhase.of_calls (hsystem : system.Serves store)
    (hkeeping : Keeping schedules (system.text? s store.path)) {c : SystemCall}
    {next : c.Reply → Procedure r.Outcome} {reply : c.Reply} {t : system.State}
    (h : InPhase system store holder s schedules i phase
      (.busy r (.perform (I := SystemCall.interface) c next)))
    (hlock : c ≠ .lock) (hunlock : c ≠ .unlock) (hanswers : system.Answers s c reply t) :
    ∃ before refusals, phase = .begun r before ∧
      refusals = before ++ (c.refusal? reply).toList ∧
      ((holder ≠ some i ∧ r.isChange = false ∧ system.text? t = system.text? s ∧
          ∃ outcome, next reply = .done outcome ∧ r.Performs refusals schedules outcome none) ∨
        (holder = some i ∧ system.text? t store.path = system.text? s store.path ∧
          InPhase system store holder t schedules i (.begun r refusals) (.busy r (next reply))) ∨
        (holder = some i ∧ r.isChange = true ∧
          ∃ outcome others, next reply = Procedure.leaving outcome ∧
            r.Performs refusals schedules outcome (some others) ∧ (∀ s ∈ others, s.IsTimed) ∧
            system.text? t store.path = some (Schedule.fileText others))) := by
  cases h with
  | reads hne hr hp =>
    obtain ⟨k, hrun, hk⟩ := store.exists_read_of_not_isChange hr
    rw [hrun] at hp
    obtain ⟨rfl, hnext⟩ := Program.perform.inj hp
    obtain rfl := eq_of_heq hnext
    exact ⟨[], _, rfl, (List.nil_append _).symm, .inl ⟨hne, hr, (hsystem.read hanswers).1,
      hk schedules reply (readsAs_of_answers hsystem hkeeping hanswers)⟩⟩
  | waits hne hr body hp hbody =>
    rw [Procedure.locked_eq] at hp
    exact absurd (Program.perform.inj hp).1 hlock
  | works heq hr d body hp hschedules hd hbody =>
    cases body with
    | done outcome => exact absurd (Program.perform.inj hp).1 hunlock
    | halted why => cases hp
    | perform _ k =>
      obtain ⟨rfl, hnext⟩ := Program.perform.inj hp
      obtain rfl := eq_of_heq hnext
      obtain ⟨d', hfollows, hsame, hrefusals, hgoes | ⟨text, hwritten, hfile⟩⟩ :=
        exists_follows hsystem hd hbody.1.2 hanswers
      rw [Draft.refusals_noting] at hrefusals
      · exact ⟨_, _, rfl, hrefusals, .inr (.inl ⟨heq, hgoes.file, .works heq hr d' (k reply) rfl
          (hsame.trans hschedules) hgoes.describes (hbody.2 reply d' hfollows)⟩)⟩
      · obtain ⟨outcome, others, hk, hperforms, rfl, htimed⟩ :=
          done_of_written (hbody.2 reply d' hfollows) hwritten
        rw [Draft.refusals_noting] at hrefusals
        refine ⟨_, _, rfl, hrefusals,
          .inr (.inr ⟨heq, hr, outcome, others, ?_, hperforms, htimed, hfile⟩)⟩
        simp only [hk]
        rfl
  | leaves heq outcome hp => exact absurd (Program.perform.inj hp).1 hunlock
  | done hne outcome hp => cases hp

theorem InPhase.of_ends {outcome : r.Outcome}
    (h : InPhase system store holder s schedules i phase (.busy r (.done outcome))) :
    phase = .answered r outcome ∧ holder ≠ some i := by
  cases h with
  | reads hne hr hp =>
    obtain ⟨_, hrun, -⟩ := store.exists_read_of_not_isChange hr
    rw [hrun] at hp
    cases hp
  | waits hne hr body hp hbody => cases hp
  | works heq hr d body hp hschedules hd hbody => cases body <;> cases hp
  | leaves heq outcome hp => cases hp
  | done hne outcome hp =>
    cases hp
    exact ⟨rfl, hne⟩

end

/-- The thread that holds the lock for a request that has not taken effect yet. -/
def pending (holder : Option ι) (phases : ι → Phase) : List ι :=
  match holder with
  | none => []
  | some i =>
    match phases i with
    | .begun .. => [i]
    | _ => []

variable [DecidableEq ι]

theorem pending_update_of_ne {holder : Option ι} {i : ι} (h : holder ≠ some i)
    (phases : ι → Phase) (phase : Phase) :
    pending holder (Function.update phases i phase) = pending holder phases := by
  cases holder with
  | none => rfl
  | some j =>
    have hne : j ≠ i := fun hji => h (congrArg some hji)
    simp only [pending, Function.update_of_ne hne]

/-- What threads have come to, and the moments that led to it, from a file that kept the first
schedules to one that keeps the last. -/
structure Linked (store : ScheduleStore) (file : Option String) (first : List Schedule)
    (events : List (Event ι)) (w : Threads system ι) (moments : List (Moment ι))
    (last : List Schedule) (phases : ι → Phase) : Prop where
  events_eq : moments.filterMap Moment.event? = events
  replays : Replays first (moments.filterMap Moment.effect?) last
  file : system.text? w.state store.path =
    (moments.filterMap Moment.effect?).foldl fileAfter file
  keeping : Keeping last (system.text? w.state store.path)
  distinct : (last.map Schedule.id).Nodup
  orderly : ∀ i, Orderly i moments (phases i)
  inPhase : ∀ i, InPhase system store w.holder w.state last i (phases i) (w.activity i)
  order : lockOrder events =
    changeOrder (moments.filterMap Moment.effect?) ++ pending w.holder phases

variable {file : Option String} {first last : List Schedule} {events : List (Event ι)}
  {w v : Threads system ι} {moments : List (Moment ι)} {phases : ι → Phase}

omit [DecidableEq ι] in
theorem linked_start {s : system.State} (h : Keeping first (system.text? s store.path))
    (hdistinct : (first.map Schedule.id).Nodup) :
    Linked store (system.text? s store.path) first [] (Threads.start s : Threads system ι) [] first
      fun _ => .idle where
  events_eq := rfl
  replays := .nil
  file := rfl
  keeping := h
  distinct := hdistinct
  orderly _ := .nil
  inPhase _ := .idle (by simp [Threads.start])
  order := rfl

/-- The moments of a step with which requests take effect. -/
def momentsOf (entries : List (Entry ι)) (e : Event ι) : List (Moment ι) :=
  .event e :: entries.map .effect

/-- A step of one thread, with which requests of it take effect, where the thread comes to a phase
and the file to other schedules. -/
structure Extends (store : ScheduleStore) (w : Threads system ι) (e : Event ι)
    (v : Threads system ι) (entries : List (Entry ι)) (last next : List Schedule)
    (phases : ι → Phase) (phase : Phase) : Prop where
  activity : ∀ j ≠ e.thread, v.activity j = w.activity j
  holder : ∀ j ≠ e.thread, (v.holder = some j ↔ w.holder = some j)
  others : ∀ j ≠ e.thread, w.holder = some j →
    system.text? v.state = system.text? w.state ∧ next = last
  thread : ∀ entry ∈ entries, entry.thread = e.thread
  replays : Replays last entries next
  file : system.text? v.state store.path =
    entries.foldl fileAfter (system.text? w.state store.path)
  keeping : Keeping next (system.text? v.state store.path)
  distinct : (next.map Schedule.id).Nodup
  orderly : ∀ moments, Orderly e.thread moments (phases e.thread) →
    Orderly e.thread (moments ++ momentsOf entries e) phase
  inPhase : InPhase system store v.holder v.state next e.thread phase (v.activity e.thread)
  order : pending w.holder phases ++ lockOrder [e] = changeOrder entries ++
    pending v.holder (Function.update phases e.thread phase)

omit [DecidableEq ι] in
theorem filterMap_event?_momentsOf (entries : List (Entry ι)) (e : Event ι) :
    (momentsOf entries e).filterMap Moment.event? = [e] := by
  simp [momentsOf, List.filterMap_map, Function.comp_def, event?]

omit [DecidableEq ι] in
theorem filterMap_effect?_momentsOf (entries : List (Entry ι)) (e : Event ι) :
    (momentsOf entries e).filterMap Moment.effect? = entries := by
  simp [momentsOf, List.filterMap_cons, List.filterMap_map, Function.comp_def, effect?]

theorem Linked.extend {e : Event ι} {entries : List (Entry ι)} {next : List Schedule}
    {phase : Phase} (h : Linked store file first events w moments last phases)
    (he : Extends store w e v entries last next phases phase) :
    Linked store file first (events ++ [e]) v (moments ++ momentsOf entries e) next
      (Function.update phases e.thread phase) where
  events_eq := by rw [List.filterMap_append, h.events_eq, filterMap_event?_momentsOf]
  replays := by
    rw [List.filterMap_append, filterMap_effect?_momentsOf]
    exact h.replays.append he.replays
  file := by
    rw [List.filterMap_append, filterMap_effect?_momentsOf, List.foldl_append, ← h.file, he.file]
  keeping := he.keeping
  distinct := he.distinct
  orderly j := by
    by_cases hj : j = e.thread
    · subst hj
      rw [Function.update_self]
      exact he.orderly moments (h.orderly _)
    · rw [Function.update_of_ne hj]
      refine (h.orderly j).append_others fun m hm => ?_
      rcases List.mem_cons.mp hm with rfl | hm
      · exact fun heq => hj heq.symm
      · obtain ⟨entry, hentry, rfl⟩ := List.mem_map.mp hm
        exact fun heq => hj (heq.symm.trans (he.thread entry hentry))
  inPhase j := by
    by_cases hj : j = e.thread
    · subst hj
      rw [Function.update_self]
      exact he.inPhase
    · rw [Function.update_of_ne hj, he.activity j hj]
      exact (h.inPhase j).of_others (he.holder j hj) (he.others j hj)
  order := by
    rw [List.filterMap_append, filterMap_effect?_momentsOf, changeOrder_append, lockOrder,
      List.filterMap_append, ← lockOrder, ← lockOrder, h.order, List.append_assoc, he.order,
      List.append_assoc]

/-! ### Steps -/

/-- A step with which nothing takes effect. -/
theorem extends_quiet (h : Linked store file first events w moments last phases)
    {e : Event ι} {a : Activity} {before phase : Phase} (hbefore : phases e.thread = before)
    (hactivity : v.activity = Function.update w.activity e.thread a)
    (hholder : ∀ j ≠ e.thread, (v.holder = some j ↔ w.holder = some j))
    (hothers : ∀ j ≠ e.thread, w.holder = some j → system.text? v.state = system.text? w.state)
    (hfile : system.text? v.state store.path = system.text? w.state store.path)
    (horderly : ∀ moments, Orderly e.thread moments before →
      Orderly e.thread (moments ++ [.event e]) phase)
    (hphase : InPhase system store v.holder v.state last e.thread phase a)
    (horder : pending w.holder phases ++ lockOrder [e] =
      pending v.holder (Function.update phases e.thread phase)) :
    Extends store w e v [] last last phases phase where
  activity j hj := by rw [hactivity, Function.update_of_ne hj]
  holder := hholder
  others j hj hw := ⟨hothers j hj hw, rfl⟩
  thread entry hentry := by cases hentry
  replays := .nil
  file := hfile
  keeping := hfile ▸ h.keeping
  distinct := h.distinct
  orderly ms hms := horderly ms (hbefore ▸ hms)
  inPhase := by rwa [hactivity, Function.update_self]
  order := horder

/-- A step with which a request of the thread takes effect. -/
theorem extends_effect (written : Option (List Schedule))
    (h : Linked store file first events w moments last phases)
    {e : Event ι} {a : Activity} {before : Phase} {r : StoreRequest} {refusals : List Refusal}
    {outcome : r.Outcome} (hbefore : phases e.thread = before)
    (hactivity : v.activity = Function.update w.activity e.thread a)
    (hholder : ∀ j ≠ e.thread, (v.holder = some j ↔ w.holder = some j))
    (hothers : ∀ j ≠ e.thread, w.holder = some j →
      system.text? v.state = system.text? w.state ∧ written.getD last = last)
    (hperforms : r.Performs refusals last outcome written)
    (htimed : ∀ others ∈ written, ∀ s ∈ others, s.IsTimed)
    (hfile : system.text? v.state store.path =
      (written.map Schedule.fileText).or (system.text? w.state store.path))
    (horderly : ∀ moments, Orderly e.thread moments before →
      Orderly e.thread (moments ++ [.event e]) (.begun r refusals))
    (hphase : InPhase system store v.holder v.state (written.getD last) e.thread
      (.answered r outcome) a)
    (horder : pending w.holder phases ++ lockOrder [e] =
      changeOrder [⟨e.thread, r, refusals, outcome, written⟩] ++
        pending v.holder (Function.update phases e.thread (.answered r outcome))) :
    Extends store w e v [⟨e.thread, r, refusals, outcome, written⟩] last (written.getD last) phases
      (.answered r outcome) where
  activity j hj := by rw [hactivity, Function.update_of_ne hj]
  holder := hholder
  others := hothers
  thread entry hentry := by rw [List.mem_singleton.mp hentry]
  replays := replays_singleton _ hperforms
  file := hfile
  keeping := by
    rw [hfile]
    cases written with
    | none => exact h.keeping
    | some others => exact Schedule.readFile?_fileText (htimed others rfl)
  distinct := by
    cases written with
    | none => exact h.distinct
    | some others => exact hperforms.nodup h.distinct
  orderly ms hms := by
    rw [momentsOf, List.append_cons]
    exact (horderly ms (hbefore ▸ hms)).effect outcome written
  inPhase := by rwa [hactivity, Function.update_self]
  order := horder

omit [DecidableEq ι] in
theorem lockOrder_calls {i : ι} {c : SystemCall} (h : c ≠ .lock) (reply : c.Reply) :
    lockOrder [.calls i ⟨c, reply⟩] = [] := by
  cases c <;> first | rfl | exact absurd rfl h

omit [DecidableEq ι] in
theorem inPhase_begun {holder : Option ι} {s : system.State} {i : ι} {r : StoreRequest}
    (hne : holder ≠ some i) (htimed : r.IsTimed) :
    InPhase system store holder s last i (.begun r []) (.busy r (r.procedure store).run) := by
  cases hr : r.isChange with
  | false => exact .reads hne hr rfl
  | true =>
    obtain ⟨body, hrun, hbody⟩ := store.isLocked_of_isChange hr htimed
    exact .waits hne hr body hrun hbody

/-- What threads have come to is kept up by every step. -/
theorem exists_extends (hsystem : system.Serves store)
    (h : Linked store file first events w moments last phases) {e : Event ι}
    (hstep : Threads.Step store w e v) :
    ∃ entries next phase, Extends store w e v entries last next phases phase := by
  cases hstep with
  | @begins i r hidle htimed =>
    obtain ⟨hphase, hne⟩ := (hidle ▸ h.inPhase i).of_idle
    refine ⟨[], last, .begun r [], extends_quiet h hphase rfl (fun _ _ => Iff.rfl)
      (fun _ _ _ => rfl) rfl (fun ms hms => hms.begins r) (inPhase_begun hne htimed) ?_⟩
    simp [pending_update_of_ne hne, lockOrder]
  | @locks i r next hbusy hfree =>
    obtain ⟨hphase, hr, body, hnext, hbody⟩ := (hbusy ▸ h.inPhase i).of_locks hfree
    refine ⟨[], last, .begun r [], extends_quiet h hphase rfl (fun j hj => ?_) (fun _ _ _ => rfl) rfl
      (fun ms hms => hms.calls (by simp) _) ?_ ?_⟩
    · simpa [hfree] using Ne.symm hj
    · exact .works rfl hr (.begun last) body hnext rfl
        ⟨h.keeping, fun _ _ h => (by cases h), rfl⟩ (hbody last (isTimed_of_keeping h.keeping))
    · simp [hfree, pending, lockOrder]
  | @unlocks i r next hbusy =>
    obtain ⟨hholder, outcome, hnext, hphase | ⟨refusals, hphase, hr, hperforms⟩⟩ :=
      (hbusy ▸ h.inPhase i).of_unlocks
    · refine ⟨[], last, .answered r outcome, extends_quiet h hphase rfl (fun j hj => ?_)
        (fun _ _ _ => rfl) rfl (fun ms hms => hms.calls (by simp) _) ?_ ?_⟩
      · simpa [hholder] using Ne.symm hj
      · rw [hnext]
        exact .done (by simp) outcome rfl
      · simp [hholder, hphase, pending, lockOrder]
    · refine ⟨_, last, .answered r outcome, extends_effect none h hphase rfl (fun j hj => ?_)
        (fun _ _ _ => ⟨rfl, rfl⟩) hperforms (fun _ h => by cases h) rfl
        (fun ms hms => (List.append_nil refusals) ▸ hms.calls (by simp) _) ?_ ?_⟩
      · simpa [hholder] using Ne.symm hj
      · rw [hnext]
        exact .done (by simp) outcome rfl
      · simp [hholder, hphase, hr, pending, lockOrder, changeOrder]
  | @calls i r c next reply t hbusy hlock hunlock hanswers =>
    obtain ⟨before, _, hphase, rfl, hcases⟩ :=
      (hbusy ▸ h.inPhase i).of_calls hsystem h.keeping hlock hunlock hanswers
    obtain ⟨hne, hr, hsame, outcome, hnext, hperforms⟩ | ⟨hholder, hsame, hworks⟩ |
      ⟨hholder, hr, outcome, others, hnext, hperforms, htimed, hfile⟩ := hcases
    · refine ⟨_, last, .answered r outcome, extends_effect none h hphase rfl (fun _ _ => Iff.rfl)
        (fun _ _ _ => ⟨hsame, rfl⟩) hperforms (fun _ h => by cases h) (congrFun hsame store.path)
        (fun ms hms => hms.calls (by simp) _) ?_ ?_⟩
      · rw [hnext]
        exact .done hne outcome rfl
      · simp [lockOrder_calls hlock, pending_update_of_ne hne, hr, changeOrder]
    · refine ⟨[], last, .begun r _, extends_quiet h hphase rfl (fun _ _ => Iff.rfl)
        (fun j hj hj' => ?_) hsame (fun ms hms => hms.calls (by simp) _) hworks ?_⟩
      · rw [hholder] at hj'
        exact absurd (Option.some.inj hj').symm hj
      · simp [lockOrder_calls hlock, hholder, hphase, pending]
    · refine ⟨_, others, .answered r outcome, extends_effect (some others) h hphase rfl
        (fun _ _ => Iff.rfl) (fun j hj hj' => ?_) hperforms (fun _ h => Option.some.inj h ▸ htimed)
        hfile (fun ms hms => hms.calls (by simp) _) ?_ ?_⟩
      · rw [hholder] at hj'
        exact absurd (Option.some.inj hj').symm hj
      · rw [hnext]
        exact .leaves hholder outcome rfl
      · simp [lockOrder_calls hlock, hholder, hphase, hr, pending, changeOrder]
  | @ends i r outcome hbusy =>
    obtain ⟨hphase, hne⟩ := (hbusy ▸ h.inPhase i).of_ends
    refine ⟨[], last, .idle, extends_quiet h hphase rfl (fun _ _ => Iff.rfl) (fun _ _ _ => rfl) rfl
      (fun ms hms => hms.ends) (.idle hne) ?_⟩
    simp [pending_update_of_ne hne, lockOrder]

theorem exists_linked (hsystem : system.Serves store) {s : system.State}
    (hfile : Keeping first (system.text? s store.path))
    (hdistinct : (first.map Schedule.id).Nodup)
    (hrun : Threads.Run store (Threads.start s) events w) :
    ∃ moments last phases,
      Linked store (system.text? s store.path) first events w moments last phases := by
  induction hrun with
  | start => exact ⟨[], first, _, linked_start hfile hdistinct⟩
  | step hrun hstep ih =>
    obtain ⟨moments, last, phases, h⟩ := ih
    obtain ⟨entries, next, phase, he⟩ := exists_extends hsystem h hstep
    exact ⟨_, next, _, h.extend he⟩

/-! ### Whole runs -/

/-- What threads do to a file that kept the first schedules comes to requests that are performed one
at a time, at certain moments of what they do, and lead to the last schedules. -/
structure Refines (file : Option String) (first : List Schedule) (events : List (Event ι))
    (fileNow : Option String) (moments : List (Moment ι)) (last : List Schedule) : Prop where
  /-- The moments are those of the run and the effects of requests. -/
  events_eq : moments.filterMap Moment.event? = events
  orderly : ∀ i, ∃ phase, Orderly i moments phase
  replays : Replays first (moments.filterMap Moment.effect?) last
  /-- The file holds what was written last, and what it held before if nothing was written. -/
  file_eq : fileNow = (moments.filterMap Moment.effect?).foldl fileAfter file
  keeping : Keeping last fileNow
  distinct : (last.map Schedule.id).Nodup
  error : ∀ entry ∈ moments.filterMap Moment.effect?, ∀ e, entry.outcome = .error e →
    entry.written = none
  /-- A request that fails on a file was refused it. -/
  refused : ∀ entry ∈ moments.filterMap Moment.effect?, ∀ path cause,
    entry.outcome = .error (.io path cause) → ⟨path, cause⟩ ∈ entry.refusals
  removeNothing : ∀ i id refusals written,
    ⟨i, .remove id, refusals, .ok false, written⟩ ∈ moments.filterMap Moment.effect? →
      written = none
  /-- Requests that may change the file take effect in the order of the lock, all but one at most
  that has the lock. -/
  order : changeOrder (moments.filterMap Moment.effect?) <+: lockOrder events
  order_length : (lockOrder events).length ≤
    (changeOrder (moments.filterMap Moment.effect?)).length + 1

omit [DecidableEq ι] in
theorem performs_of_mem {entries : List (Entry ι)} (h : Replays first entries last)
    {entry : Entry ι} (hentry : entry ∈ entries) :
    ∃ schedules, entry.request.Performs entry.refusals schedules entry.outcome entry.written := by
  induction h with
  | nil => cases hentry
  | snoc h hperforms ih =>
    rcases List.mem_append.mp hentry with hentry | hentry
    · exact ih hentry
    · rw [List.mem_singleton.mp hentry]
      exact ⟨_, hperforms⟩

omit [DecidableEq ι] in
theorem length_pending_le (holder : Option ι) (phases : ι → Phase) :
    (pending holder phases).length ≤ 1 := by
  unfold pending
  split
  · simp
  · split <;> simp

/-- Whatever threads do with a store, its file keeps the schedules that their requests lead to, one
performed after the other. -/
theorem refines_of_run (hsystem : system.Serves store) {s : system.State}
    (hfile : Keeping first (system.text? s store.path))
    (hdistinct : (first.map Schedule.id).Nodup)
    (hrun : Threads.Run store (Threads.start s) events w) :
    ∃ moments last, Refines (system.text? s store.path) first events
      (system.text? w.state store.path) moments last := by
  obtain ⟨moments, last, phases, h⟩ := exists_linked hsystem hfile hdistinct hrun
  refine ⟨moments, last, ⟨h.events_eq, fun i => ⟨phases i, h.orderly i⟩, h.replays, h.file,
    h.keeping, h.distinct, ?_, ?_, ?_, ?_, ?_⟩⟩
  · intro entry hentry e he
    obtain ⟨schedules, hperforms⟩ := performs_of_mem h.replays hentry
    rw [he] at hperforms
    exact StoreRequest.written_eq_none_of_error hperforms
  · intro entry hentry path cause he
    obtain ⟨schedules, hperforms⟩ := performs_of_mem h.replays hentry
    rw [he] at hperforms
    exact StoreRequest.mem_refusals_of_io hperforms
  · intro i id refusals written hentry
    obtain ⟨schedules, hperforms⟩ := performs_of_mem h.replays hentry
    exact StoreRequest.written_eq_none_of_removeNothing hperforms
  · rw [h.order]
    exact List.prefix_append _ _
  · rw [h.order, List.length_append]
    exact Nat.add_le_add_left (length_pending_le w.holder phases) _

end

/-- A schedule is added to a missing file, and another thread reads the file in the meantime. -/
theorem refines_of_run_addAndLoad : ∃ events, ∃ w : Threads FlatFiles.system Nat,
    Threads.Run FlatFiles.store (Threads.start FlatFiles.empty) events w ∧
      (w.state.text? "schedules.json").isSome ∧ w.activity 0 = .idle ∧ w.activity 1 = .idle ∧
      ∃ moments last, Refines none [] events (w.state.text? "schedules.json") moments last := by
  have h0 : Threads.Run FlatFiles.store
    (Threads.start FlatFiles.empty : Threads FlatFiles.system Nat) [] _ := .start
  have hbegins := h0.step (.begins (i := 0)
    (r := .add ⟨some "nightly", "flow.yaml", "0 2 * * *", none, none, none⟩) rfl trivial)
  have hlocks := hbegins.step (.locks (i := 0) rfl rfl)
  have hreads := hlocks.step (.calls (i := 0) rfl (by simp) (by simp) rfl)
  have hnames := hreads.step (.calls (i := 0) rfl (by simp) (by simp) rfl)
  have hdates := hnames.step (.calls (i := 0) rfl (by simp) (by simp) rfl)
  have hdirectories := hdates.step (.calls (i := 0) rfl (by simp) (by simp) rfl)
  have hprocess := hdirectories.step (.calls (i := 0) rfl (by simp) (by simp) rfl)
  have hunique := hprocess.step (.calls (i := 0) rfl (by simp) (by simp) rfl)
  have hother := hunique.step (.begins (i := 1) (r := .load) rfl trivial)
  have hwrites := hother.step (.calls (i := 0) rfl (by simp) (by simp) rfl)
  have hloads := hwrites.step (.calls (i := 1) rfl (by simp) (by simp) rfl)
  have hrenames := hloads.step (.calls (i := 0) rfl (by simp) (by simp) rfl)
  have hunlocks := hrenames.step (.unlocks (i := 0) rfl)
  have hends := hunlocks.step (.ends (i := 0) rfl)
  have hrun := hends.step (.ends (i := 1) rfl)
  have hmissing : Keeping [] (FlatFiles.system.text? FlatFiles.empty FlatFiles.store.path) := rfl
  exact ⟨_, _, hrun, rfl, rfl, rfl, refines_of_run FlatFiles.serves hmissing List.nodup_nil hrun⟩

end Runbook.ScheduleStore
