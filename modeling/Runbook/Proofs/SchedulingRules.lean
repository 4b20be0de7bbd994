import Runbook.Scheduler.Basic
import Runbook.Proofs.Contract

/-!
The work of the scheduler under contracts: one rule for each way in which its parts are put together.
Main statement: a procedure keeps as a part of the scheduler's work to what it keeps to by itself.
-/

namespace Runbook

def Contract.onSystem {S : Type} (K : Contract SchedulerCall.interface S) :
    Contract SystemCall.interface S where
  Allows s c := K.Allows s (.system c)
  Follows s c reply t := K.Follows s (.system c) reply t
  MayHalt := K.MayHalt

namespace Scheduling

variable {S α β : Type} {K : Contract SchedulerCall.interface S} {s : S} {σ : Scheduler}

/-- From a state on and with a scheduler, a part of the scheduler's work keeps a contract, and the
scheduler and the result it ends with fit. -/
def Keeps (K : Contract SchedulerCall.interface S) (post : S → Scheduler → α → Prop) (s : S)
    (σ : Scheduler) (p : Scheduling α) : Prop :=
  Program.Keeps K (fun t r => post t r.2 r.1) s (p.run σ)

theorem Keeps.mono {p : Scheduling α} {post weaker : S → Scheduler → α → Prop}
    (h : Keeps K post s σ p) (hpost : ∀ t τ a, post t τ a → weaker t τ a) :
    Keeps K weaker s σ p := Program.Keeps.mono h fun t r => hpost t r.2 r.1

@[simp] theorem keeps_pure {post : S → Scheduler → α → Prop} {a : α} :
    Keeps K post s σ (pure a) ↔ post s σ a := Iff.rfl

theorem keeps_bind {p : Scheduling α} {f : α → Scheduling β} {post : S → Scheduler → β → Prop} :
    Keeps K post s σ (p >>= f) ↔ Keeps K (fun t τ a => Keeps K post t τ (f a)) s σ p :=
  Program.keeps_andThen

theorem keeps_map {p : Scheduling α} {f : α → β} {post : S → Scheduler → β → Prop}
    (h : Keeps K (fun t τ a => post t τ (f a)) s σ p) : Keeps K post s σ (f <$> p) := by
  rw [map_eq_pure_bind]
  exact keeps_bind.mpr h

@[simp] theorem keeps_get {post : S → Scheduler → Scheduler → Prop} :
    Keeps K post s σ get ↔ post s σ σ := Iff.rfl

@[simp] theorem keeps_modify {f : Scheduler → Scheduler} {post : S → Scheduler → Unit → Prop} :
    Keeps K post s σ (modify f) ↔ post s (f σ) () := Iff.rfl

theorem keeps_notify {n : SchedulerNotice} {post : S → Scheduler → Unit → Prop} :
    Keeps K post s σ (notify n) ↔
      K.Allows s (.notice n) ∧ ∀ u t, K.Follows s (.notice n) u t → post t σ u := Iff.rfl

theorem keeps_interpret {p : Procedure α} {post : S → α → Prop} :
    Program.Keeps K post s (p.interpret fun c =>
        Program.call (I := SchedulerCall.interface) (.system c)) ↔
      Program.Keeps K.onSystem post s p := by
  induction p generalizing s with
  | done a => exact Iff.rfl
  | halted why => exact Iff.rfl
  | perform c next ih =>
    constructor
    · rintro ⟨hallows, hnext⟩
      exact ⟨hallows, fun reply t ht => (ih reply).mp (hnext reply t ht)⟩
    · rintro ⟨hallows, hnext⟩
      exact ⟨hallows, fun reply t ht => (ih reply).mpr (hnext reply t ht)⟩

theorem keeps_computed {c : Computed α} {post : S → Scheduler → α → Prop}
    (h : ∀ a, c = .ok a → post s σ a) (hover : c = .error .overflow → K.MayHalt s .overflow) :
    Keeps K post s σ (computed c) :=
  Program.keeps_andThen.mpr (Program.keeps_computed h hover)

theorem keeps_procedure {p : Procedure α} {post : S → Scheduler → α → Prop} :
    Keeps K post s σ (procedure p) ↔ Program.Keeps K.onSystem (fun t a => post t σ a) s p :=
  Program.keeps_andThen.trans keeps_interpret

end Scheduling

namespace CheckedScheduling

open Scheduling (Keeps)

variable {S α β : Type} {K : Contract SchedulerCall.interface S} {s : S} {σ : Scheduler}

theorem keeps_bind {p : CheckedScheduling α} {f : α → CheckedScheduling β}
    {post : S → Scheduler → Except ScheduleError β → Prop}
    (h : Keeps K (fun t τ r => match r with
      | .ok a => Keeps K post t τ (f a).run
      | .error e => post t τ (.error e)) s σ p.run) : Keeps K post s σ (p >>= f).run := by
  rw [ExceptT.run_bind, Scheduling.keeps_bind]
  refine h.mono fun t τ r hr => ?_
  cases r with
  | ok a => exact hr
  | error e => exact hr

theorem keeps_lift {p : Scheduling α} {post : S → Scheduler → Except ScheduleError α → Prop}
    (h : Keeps K (fun t τ a => post t τ (.ok a)) s σ p) :
    Keeps K post s σ (liftM p : CheckedScheduling α).run := Program.keeps_andThen.mpr h

@[simp] theorem keeps_get {post : S → Scheduler → Except ScheduleError Scheduler → Prop} :
    Keeps K post s σ (get : CheckedScheduling Scheduler).run ↔ post s σ (.ok σ) := Iff.rfl

@[simp] theorem keeps_modify {f : Scheduler → Scheduler}
    {post : S → Scheduler → Except ScheduleError Unit → Prop} :
    Keeps K post s σ (modify f : CheckedScheduling Unit).run ↔ post s (f σ) (.ok ()) := Iff.rfl

theorem keeps_except {x : Except ScheduleError α}
    {post : S → Scheduler → Except ScheduleError α → Prop} :
    Keeps K post s σ (liftM x : CheckedScheduling α).run ↔ post s σ x := by
  cases x <;> exact Iff.rfl

theorem keeps_computed {c : Computed (Except ScheduleError α)}
    {post : S → Scheduler → Except ScheduleError α → Prop} (h : ∀ r, c = .ok r → post s σ r)
    (hover : c = .error .overflow → K.MayHalt s .overflow) :
    Keeps K post s σ (ExceptT.mk (Scheduling.computed c) : CheckedScheduling α).run :=
  Scheduling.keeps_computed h hover

theorem keeps_procedure {p : ScheduleProcedure α}
    {post : S → Scheduler → Except ScheduleError α → Prop} :
    Keeps K post s σ (procedure p).run ↔
      Program.Keeps K.onSystem (fun t r => post t σ r) s p.run := Scheduling.keeps_procedure

end CheckedScheduling

/-! ### Registering -/

/-- The expression of an enabled schedule overflows. -/
def Schedule.HasOverflow (schedules : List Schedule) : Prop :=
  ∃ s ∈ schedules, s.enabled = true ∧ Cron.parse s.cron = .error .overflow

/-- In states of a kind the time may be asked for and anything may be shown, and that leads to
states of the same kind. -/
structure Contract.IsIdle {S : Type} (K : Contract SchedulerCall.interface S) (Q : S → Prop) :
    Prop where
  now : ∀ s, Q s → K.Allows s (.system .now) ∧
    ∀ reply t, K.Follows s (.system .now) reply t → Q t
  notice : ∀ s n, Q s → K.Allows s (.notice n) ∧
    ∀ reply t, K.Follows s (.notice n) reply t → Q t

namespace Scheduler

open Scheduling (Keeps)
open CheckedScheduling (keeps_bind keeps_lift keeps_get keeps_modify keeps_except keeps_computed)

variable {S : Type} {K : Contract SchedulerCall.interface S} {Q : S → Prop} {s : S}
  {σ : Scheduler}

theorem keeps_notify (hK : K.IsIdle Q) (hs : Q s) {n : SchedulerNotice}
    {post : S → Scheduler → Unit → Prop} (hpost : ∀ t, Q t → post t σ ()) :
    Keeps K post s σ (Scheduling.notify n) :=
  Scheduling.keeps_notify.mpr
    ⟨(hK.notice s n hs).1, fun u t ht => hpost t ((hK.notice s n hs).2 u t ht)⟩

theorem keeps_register (hK : K.IsIdle Q) (hs : Q s) (schedule : Schedule)
    {post : S → Scheduler → Except ScheduleError Unit → Prop}
    (hpost : ∀ t tasks r, Q t → post t { σ with tasks } r)
    (hover : Cron.parse schedule.cron = .error .overflow → K.MayHalt s .overflow) :
    Keeps K post s σ (register schedule).run := by
  unfold register
  refine keeps_bind (keeps_computed (fun cron _ => ?_) hover)
  cases cron with
  | error e => exact hpost s σ.tasks _ hs
  | ok cron =>
    refine keeps_bind (keeps_except.mpr ?_)
    cases (Zone.resolve schedule.timezone : Except ScheduleError Zone) with
    | error e => exact hpost s σ.tasks _ hs
    | ok zone =>
      refine keeps_bind (keeps_lift (Scheduling.keeps_procedure.mpr ?_))
      refine ⟨(hK.now s hs).1, fun now t ht => ?_⟩
      refine keeps_bind (keeps_lift (keeps_notify hK ((hK.now s hs).2 now t ht) fun u hu => ?_))
      exact hpost u _ _ hu

theorem keeps_registerAll (hK : K.IsIdle Q) (hs : Q s) (schedules : List Schedule)
    {post : S → Scheduler → StartReport → Prop}
    (hpost : ∀ t tasks r, Q t → post t { σ with tasks } r)
    (hover : ∀ schedule ∈ schedules, Cron.parse schedule.cron = .error .overflow →
      ∀ t, Q t → K.MayHalt t .overflow) : Keeps K post s σ (registerAll schedules) := by
  induction schedules generalizing s σ post with
  | nil => exact hpost s σ.tasks _ hs
  | cons schedule rest ih =>
    obtain ⟨hfirst, hrest⟩ := List.forall_mem_cons.mp hover
    refine Scheduling.keeps_bind.mpr
      (keeps_register hK hs schedule (fun t tasks r ht => ?_) fun h => hfirst h s hs)
    cases r with
    | ok u =>
      exact Scheduling.keeps_bind.mpr (ih ht (fun u tasks' r hu => hpost u tasks' _ hu) hrest)
    | error e =>
      refine Scheduling.keeps_bind.mpr (keeps_notify hK ht fun u hu => ?_)
      exact Scheduling.keeps_bind.mpr (ih hu (fun v tasks' r hv => hpost v tasks' _ hv) hrest)

/-- A reload begins with no tasks, and ends so if the schedules cannot be loaded. -/
theorem keeps_reload (hK : K.IsIdle Q)
    {post : S → Scheduler → Except ScheduleError StartReport → Prop}
    (hload : Program.Keeps K.onSystem (fun t r => match r with
      | .ok schedules =>
        Q t ∧ (Schedule.HasOverflow schedules → ∀ u, Q u → K.MayHalt u .overflow)
      | .error e => post t { σ with tasks := [] } (.error e)) s σ.store.load.run)
    (hpost : ∀ t tasks report, Q t → post t { σ with tasks } (.ok report)) :
    Keeps K post s σ reload.run := by
  refine keeps_bind (keeps_modify.mpr (keeps_bind (keeps_get.mpr ?_)))
  refine keeps_bind (CheckedScheduling.keeps_procedure.mpr (hload.mono fun t r hr => ?_))
  cases r with
  | error e => exact hr
  | ok schedules =>
    obtain ⟨ht, hover⟩ := hr
    have hregister : ∀ t, Q t → Keeps K post t { σ with tasks := [] }
        (liftM (registerAll (schedules.filter Schedule.enabled)) : CheckedScheduling _).run := by
      intro t ht
      refine keeps_lift (keeps_registerAll hK ht _ (fun u tasks report hu => hpost u tasks report hu)
        fun schedule hmem hparse => hover ?_)
      obtain ⟨hstored, henabled⟩ := List.mem_filter.mp hmem
      exact ⟨schedule, hstored, henabled, hparse⟩
    dsimp only
    split
    · exact keeps_bind (keeps_lift (keeps_notify hK ht fun u hu => hregister u hu))
    · exact hregister t ht

def enter (daemon : Daemon) (process : Nat) (asDaemon : Bool) : CheckedScheduling StartReport := do
  Scheduling.notify (.starting asDaemon)
  if asDaemon then CheckedScheduling.procedure daemon.savePid
  let report ← reload
  Scheduling.notify (.started asDaemon process)
  return report

end Scheduler

end Runbook
