import Runbook.Proofs.StartOutcome

/-!
Starts, reloads and shutdowns of one scheduler in any order, with time that passes between them.
Main statement: the first shutdown ends all tasks, and takes the files of a daemon away unless it
comes to an error; no later one changes anything.
-/

namespace Runbook

/-- What a program keeps to whatever the replies to its calls are. -/
def Contract.free {I : Interface} : Contract I Unit where
  Allows _ _ := True
  Follows _ _ _ _ := True
  MayHalt _ _ := True

namespace Program

variable {I : Interface} {σ α : Type}

theorem keeps_free (p : Program I α) : Keeps .free (fun _ _ => True) () p := by
  induction p with
  | done a => trivial
  | halted why => trivial
  | perform c next ih => exact ⟨trivial, fun reply _ _ => ih reply⟩

theorem Keeps.of_finish {h : Host I σ} {s t : σ} {p : Program I α} {a : α}
    {post : Unit → α → Prop} (hp : Keeps .free post () p) (hfinish : p.finish h s = some (a, t)) :
    post () a := by
  induction p generalizing s with
  | done b =>
    obtain ⟨rfl, -⟩ := Prod.mk.inj (Option.some.inj hfinish)
    exact hp
  | halted why => cases hfinish
  | perform c next ih => exact ih _ (hp.2 _ () trivial) hfinish

end Program

/-! ### Time that passes -/

namespace Scheduling

open Program (keeps_free)

variable {α β : Type}

def Leaves (p : Scheduling α) : Prop :=
  ∀ σ, Keeps Contract.free (fun _ τ _ => τ = σ) () σ p

theorem leaves_pure (a : α) : Leaves (pure a) := fun _ => rfl

theorem leaves_get : Leaves get := fun _ => rfl

theorem Leaves.bind {p : Scheduling α} {f : α → Scheduling β} (hp : Leaves p)
    (hf : ∀ a, Leaves (f a)) : Leaves (p >>= f) := by
  intro σ
  refine keeps_bind.mpr ((hp σ).mono ?_)
  rintro u τ a rfl
  exact hf a τ

theorem leaves_procedure (p : Procedure α) : Leaves (procedure p) :=
  fun _ => keeps_procedure.mpr ((keeps_free p).mono fun _ _ _ => rfl)

theorem leaves_call (c : SchedulerCall) : Leaves (call c) := fun _ => ⟨trivial, fun _ _ _ => rfl⟩

theorem Leaves.map {p : Scheduling α} (f : α → β) (hp : Leaves p) : Leaves (f <$> p) := by
  rw [map_eq_pure_bind]
  exact hp.bind fun a => leaves_pure (f a)

theorem keeps_forIn {xs : List α} {f : α → PUnit → Scheduling (ForInStep PUnit)}
    {P : Scheduler → Prop}
    (hf : ∀ x u σ, P σ → Keeps Contract.free (fun _ τ _ => P τ) () σ (f x u)) {σ : Scheduler}
    (hσ : P σ) : Keeps Contract.free (fun _ τ _ => P τ) () σ (forIn xs PUnit.unit f) := by
  induction xs generalizing σ with
  | nil => exact hσ
  | cons x xs ih =>
    rw [List.forIn_cons]
    refine keeps_bind.mpr ((hf x _ σ hσ).mono fun _ τ step hτ => ?_)
    cases step with
    | done u => exact hτ
    | yield u => exact ih hτ

end Scheduling

namespace Scheduler

open Scheduling

theorem leaves_prepareRun (s : Schedule) : Leaves (prepareRun s) := by
  unfold prepareRun
  refine (leaves_procedure _).bind fun loaded => ?_
  cases loaded with
  | error e => exact leaves_pure _
  | ok workflow => exact leaves_pure _

theorem leaves_announce (s : Schedule) (n : SchedulerNotice) : Leaves (announce s n) := by
  unfold announce
  split
  · exact leaves_pure _
  · exact leaves_call _

theorem leaves_conclude (s : Schedule) (failure? : Option String) :
    Leaves (conclude s failure?) := by
  cases failure? with
  | some reason => exact leaves_announce s _
  | none =>
    refine (leaves_procedure _).bind fun now => leaves_get.bind fun σ => ?_
    exact (leaves_procedure _).bind fun _ => leaves_announce s _

theorem leaves_runSchedule (s : Schedule) : Leaves (runSchedule s) := by
  have hend : ∀ outcome : Computed (Option String), Leaves (match outcome with
      | .ok failure? => Except.ok <$> conclude s failure?
      | .error e => return .error e) := by
    intro outcome
    cases outcome with
    | ok failure? => exact (leaves_conclude s failure?).map _
    | error e => exact leaves_pure _
  unfold runSchedule
  refine (leaves_announce s _).bind fun _ => (leaves_prepareRun s).bind fun prepared => ?_
  cases prepared with
  | error reason => exact (leaves_pure _).bind hend
  | ok run => exact (leaves_call _).bind hend

theorem leaves_awaken (mark : Timestamp) (elapsed : Duration) (task : ScheduledTask) :
    Leaves (awaken mark elapsed task) := by
  unfold awaken
  cases task.wait with
  | none => exact leaves_pure _
  | some wait =>
    dsimp only
    split
    · refine (leaves_runSchedule _).bind fun outcome => ?_
      cases outcome with
      | error e => exact leaves_pure _
      | ok u => exact (leaves_procedure _).bind fun now => leaves_pure _
    · exact leaves_pure _

end Scheduler

/-! ### Requests -/

inductive SchedulerRequest where
  | start (asDaemon : Bool)
  | reload
  | shutDown (asDaemon : Bool)
  | advance (elapsed : Duration)
  deriving DecidableEq, Repr

namespace SchedulerRequest

def work : SchedulerRequest → CheckedScheduling Unit
  | .start asDaemon => do let _ ← Scheduler.start asDaemon
  | .reload => do let _ ← Scheduler.reload
  | .shutDown asDaemon => Scheduler.shutDown asDaemon
  | .advance elapsed => do Scheduler.advance elapsed

def isShutDown : SchedulerRequest → Bool
  | .shutDown _ => true
  | _ => false

def registers : SchedulerRequest → Bool
  | .start _ => true
  | .reload => true
  | _ => false

/-- What a request makes of a scheduler, whatever the system replies. -/
structure Leads (r : SchedulerRequest) (σ τ : Scheduler) : Prop where
  store : τ.store = σ.store
  daemon : τ.daemon = σ.daemon
  isShutDown : τ.isShutDown = (σ.isShutDown || r.isShutDown)
  tasks : r.registers = false → σ.tasks = [] → τ.tasks = []
  ends : r.isShutDown = true → σ.isShutDown = false → τ.tasks = []

end SchedulerRequest

namespace Scheduler

open Scheduling (Keeps)
open SchedulerRehearsal (contract)

variable {s : SchedulerRehearsal} {σ τ : Scheduler} {may : Halt → Prop}

theorem leads_advance (elapsed : Duration) :
    Keeps Contract.free (fun _ τ _ => (SchedulerRequest.advance elapsed).Leads σ τ) () σ
      (advance elapsed) := by
  have hbegin : (SchedulerRequest.advance elapsed).Leads σ σ :=
    ⟨rfl, rfl, by simp [SchedulerRequest.isShutDown], fun _ h => h, fun h => by cases h⟩
  unfold advance
  refine Scheduling.keeps_bind.mpr ((Scheduling.leaves_procedure _ σ).mono ?_)
  rintro _ _ mark rfl
  refine Scheduling.keeps_bind.mpr (Scheduling.keeps_get.mpr ?_)
  refine Scheduling.keeps_bind.mpr (Scheduling.keeps_forIn (fun entry u τ hτ => ?_) hbegin)
  refine Scheduling.keeps_bind.mpr ((leaves_awaken _ _ _ τ).mono ?_)
  rintro _ υ wait rfl
  refine Scheduling.keeps_bind.mpr (Scheduling.keeps_modify.mpr ?_)
  refine ⟨hτ.store, hτ.daemon, hτ.isShutDown, fun hregisters hnone => ?_, fun h => by cases h⟩
  have hempty : υ.tasks = [] := hτ.tasks hregisters hnone
  simp [hempty, Bindings.isBound, Bindings.find?]

theorem keeps_shutDown {paths : StatePaths} (hdaemon : σ.daemon = paths.daemonFiles)
    (asDaemon : Bool) {post : SchedulerRehearsal → Scheduler → Except ScheduleError Unit → Prop}
    (hrepeated : σ.isShutDown = true → post s σ (.ok ()))
    (hfirst : σ.isShutDown = false → ∀ t r, (r = .ok () → asDaemon = true →
        t.machine.files.read t.machine.current paths.daemonFiles.pidFile = .error .notFound ∧
        t.machine.files.read t.machine.current paths.daemonFiles.startTimeFile =
          .error .notFound) →
      post t { σ with isShutDown := true, tasks := [] } r) :
    Keeps (contract may) post s σ (shutDown asDaemon).run := by
  obtain ⟨store, daemon, tasks, isShutDown⟩ := σ
  obtain rfl : daemon = paths.daemonFiles := hdaemon
  refine CheckedScheduling.keeps_bind (CheckedScheduling.keeps_get.mpr ?_)
  dsimp only
  split
  next hdone => exact hrepeated hdone
  next hrunning =>
    have hflag : isShutDown = false := by simpa using hrunning
    refine CheckedScheduling.keeps_bind (CheckedScheduling.keeps_modify.mpr ?_)
    refine CheckedScheduling.keeps_bind (CheckedScheduling.keeps_lift
      (keeps_notify (SchedulerRehearsal.isIdle s.machine) rfl fun t _ => ?_))
    refine CheckedScheduling.keeps_bind (CheckedScheduling.keeps_modify.mpr ?_)
    cases asDaemon with
    | false => exact hfirst hflag _ _ fun _ h => by cases h
    | true =>
      refine CheckedScheduling.keeps_bind (CheckedScheduling.keeps_get.mpr ?_)
      refine SchedulerRehearsal.keeps_procedure (Daemon.keeps_removePid paths ?_ ?_)
      · intro files hpid hstart _
        exact hfirst hflag _ _ fun _ _ => ⟨hpid, hstart⟩
      · intro files path cause _
        exact hfirst hflag _ _ fun h => by cases h

end Scheduler

namespace SchedulerRequest

open SchedulerRehearsal (contract)

variable {s t : SchedulerRehearsal} {σ τ : Scheduler} {result : Except ScheduleError Unit}
  {may : Halt → Prop}

theorem keeps_discard {α : Type} {p : CheckedScheduling α} {P : Scheduler → Prop}
    (h : Scheduling.Keeps (contract may) (fun _ τ _ => P τ) s σ p.run) :
    Scheduling.Keeps (contract may) (fun _ τ _ => P τ) s σ
      (do let _ ← p : CheckedScheduling Unit).run := by
  refine CheckedScheduling.keeps_bind (h.mono fun t τ r hr => ?_)
  cases r with
  | ok a => exact hr
  | error e => exact hr

theorem leads_of_registers {r : SchedulerRequest} (hr : r.registers = true)
    (tasks : Bindings ScheduledTask) : r.Leads σ { σ with tasks } := by
  have hflag : r.isShutDown = false := by
    cases r <;> simp_all [registers, isShutDown]
  exact ⟨rfl, rfl, by simp [hflag], fun h => by simp [hr] at h, fun h => by simp [hflag] at h⟩

theorem leads_of_perform {paths : StatePaths} (hdaemon : σ.daemon = paths.daemonFiles)
    {r : SchedulerRequest} (h : s.perform σ r.work = some ((result, τ), t)) : r.Leads σ τ := by
  cases r with
  | start asDaemon =>
    have hstart : Scheduling.Keeps (contract fun _ => True)
        (fun _ τ _ => (SchedulerRequest.start asDaemon).Leads σ τ) s σ
        (Scheduler.start asDaemon).run := by
      refine (Scheduler.keeps_start hdaemon asDaemon fun _ => trivial).mono fun t τ r hends => ?_
      obtain ⟨files, -, hends⟩ := hends
      cases hends <;> exact leads_of_registers rfl _
    exact SchedulerRehearsal.of_perform (keeps_discard hstart) h
  | reload =>
    have hreload : Scheduling.Keeps (contract fun _ => True)
        (fun _ τ _ => SchedulerRequest.reload.Leads σ τ) s σ Scheduler.reload.run :=
      Scheduler.rehearsal_keeps_reload (fun _ tasks _ _ => leads_of_registers rfl tasks)
        (fun _ _ => leads_of_registers rfl []) fun _ => trivial
    exact SchedulerRehearsal.of_perform (keeps_discard hreload) h
  | shutDown asDaemon =>
    have hshut : Scheduling.Keeps (contract fun _ => False)
        (fun _ τ _ => (SchedulerRequest.shutDown asDaemon).Leads σ τ) s σ
        (Scheduler.shutDown asDaemon).run := by
      refine Scheduler.keeps_shutDown hdaemon asDaemon (fun hdone => ?_) fun _ t r _ => ?_
      · exact ⟨rfl, rfl, by simp [hdone], fun _ htasks => htasks, fun _ h => by simp [hdone] at h⟩
      · exact ⟨rfl, rfl, by simp [isShutDown], fun _ _ => rfl, fun _ _ => rfl⟩
    exact SchedulerRehearsal.of_perform hshut h
  | advance elapsed =>
    have hadvance : Scheduling.Keeps Contract.free
        (fun _ τ _ => (SchedulerRequest.advance elapsed).Leads σ τ) () σ
        (SchedulerRequest.advance elapsed).work.run :=
      CheckedScheduling.keeps_lift (Scheduler.leads_advance elapsed)
    exact Program.Keeps.of_finish hadvance h

end SchedulerRequest

/-- Requests that come to an end, one after the other. Between them and through them the system
changes in any way. -/
inductive SchedulerCourse (σ : Scheduler) : List SchedulerRequest → Scheduler → Prop
  | start : SchedulerCourse σ [] σ
  | next {earlier : List SchedulerRequest} {r : SchedulerRequest} {τ υ : Scheduler}
    {s t : SchedulerRehearsal} {result : Except ScheduleError Unit}
    (hearlier : SchedulerCourse σ earlier τ)
    (hperform : s.perform τ r.work = some ((result, υ), t)) :
    SchedulerCourse σ (earlier ++ [r]) υ

namespace SchedulerCourse

variable {store : ScheduleStore} {paths : StatePaths} {requests : List SchedulerRequest}
  {σ : Scheduler}

theorem daemon_eq (h : SchedulerCourse (.create store paths.daemonFiles) requests σ) :
    σ.daemon = paths.daemonFiles := by
  induction h with
  | start => rfl
  | next _ hperform ih => exact (SchedulerRequest.leads_of_perform ih hperform).daemon.trans ih

theorem isShutDown_eq (h : SchedulerCourse (.create store paths.daemonFiles) requests σ) :
    σ.isShutDown = requests.any SchedulerRequest.isShutDown := by
  induction h with
  | start => rfl
  | next hearlier hperform ih =>
    rw [(SchedulerRequest.leads_of_perform hearlier.daemon_eq hperform).isShutDown, ih]
    simp

/-- Where nothing was started since the first shutdown, there are no tasks. -/
theorem tasks_eq_nil (h : SchedulerCourse (.create store paths.daemonFiles) requests σ)
    {front back : List SchedulerRequest} {asDaemon : Bool}
    (hrequests : requests = front ++ .shutDown asDaemon :: back)
    (hfront : front.any SchedulerRequest.isShutDown = false)
    (hback : back.any SchedulerRequest.registers = false) : σ.tasks = [] := by
  induction h generalizing back with
  | start => simp at hrequests
  | @next earlier r τ υ s t result hearlier hperform ih =>
    have hleads := SchedulerRequest.leads_of_perform hearlier.daemon_eq hperform
    rcases List.eq_nil_or_concat back with rfl | ⟨rest, last, rfl⟩
    · obtain ⟨rfl, hr⟩ := List.append_inj' hrequests rfl
      obtain rfl : r = .shutDown asDaemon := by simpa using hr
      exact hleads.ends rfl (hearlier.isShutDown_eq.trans hfront)
    · rw [List.concat_eq_append] at hrequests hback
      rw [← List.cons_append, ← List.append_assoc] at hrequests
      obtain ⟨rfl, hr⟩ := List.append_inj' hrequests rfl
      obtain rfl : r = last := by simpa using hr
      simp only [List.any_append, List.any_cons, List.any_nil, Bool.or_false,
        Bool.or_eq_false_iff] at hback
      exact hleads.tasks hback.2 (ih rfl hback.1)

/-- The first shutdown of a scheduler ends all tasks, and takes the files of a daemon away if it
succeeds. Every later one succeeds and changes nothing; there are no tasks after it if nothing was
started since the first one. -/
theorem shutdown_only_once {store : ScheduleStore} {paths : StatePaths}
    {requests : List SchedulerRequest} {σ : Scheduler}
    (h : SchedulerCourse (.create store paths.daemonFiles) requests σ) (asDaemon : Bool)
    (s : SchedulerRehearsal) :
    ∃ r τ t, s.perform σ (Scheduler.shutDown asDaemon) = some ((r, τ), t) ∧
      (requests.any SchedulerRequest.isShutDown = false → τ.tasks = [] ∧
        (r = .ok () → asDaemon = true →
          t.machine.files.read t.machine.current paths.daemonFiles.pidFile = .error .notFound ∧
          t.machine.files.read t.machine.current paths.daemonFiles.startTimeFile =
            .error .notFound)) ∧
      (requests.any SchedulerRequest.isShutDown = true → r = .ok () ∧ τ = σ ∧ t = s) ∧
      ∀ front back asDaemon', requests = front ++ .shutDown asDaemon' :: back →
        front.any SchedulerRequest.isShutDown = false →
        back.any SchedulerRequest.registers = false → τ.tasks = [] := by
  have hflag := h.isShutDown_eq
  refine SchedulerRehearsal.exists_of_keeps
    (Scheduler.keeps_shutDown h.daemon_eq asDaemon (fun hdone => ?_) fun hrunning t r hgone => ?_)
  · refine ⟨fun hnone => ?_, fun _ => ⟨rfl, rfl, rfl⟩, fun front back _ => h.tasks_eq_nil⟩
    rw [hflag, hnone] at hdone
    cases hdone
  · refine ⟨fun _ => ⟨rfl, hgone⟩, fun hsome => ?_, fun _ _ _ _ _ _ => rfl⟩
    rw [hflag, hsome] at hrunning
    cases hrunning

/-! ### A start after the shutdown -/

namespace Restart

def home : StatePaths := .beneath "/"

def everySecond : Schedule :=
  ⟨"a", none, "/a.yaml", "* * * * * *", true, ⟨0, 0⟩, none, none, none, none⟩

def storing (text : Option String) : SchedulerRehearsal where
  machine := ⟨⟨text.toList.map fun text => (["schedules.json"], ⟨some text, ⟨0, 0⟩⟩)⟩, "/", ⟨0, 0⟩,
    7, [], 0⟩
  runs := ⟨[], ⟨true, some 0, [], [], false, .zero⟩, [], [], .zero, []⟩
  notices := []
  commands := []
  silences := []

def scheduler : Scheduler := .create ⟨home.schedules⟩ home.daemonFiles

def ended : Scheduler := { scheduler with isShutDown := true }

end Restart

open Restart (home storing scheduler ended) in
/-- A start between the two shutdowns: the second one does nothing. -/
theorem shutdown_only_once_restarted :
    SchedulerCourse scheduler [.shutDown false, .start true] ended ∧
      ∃ r τ t, (storing none).perform ended (Scheduler.shutDown true) = some ((r, τ), t) ∧
        r = .ok () ∧ τ = ended ∧ t = storing none := by
  have hstart : ((storing none).perform ended (SchedulerRequest.start true).work).map
      (fun after => after.1.2) = some ended := by decide +kernel
  obtain ⟨⟨⟨result, τ⟩, t⟩, hperform, hτ⟩ := Option.map_eq_some_iff.mp hstart
  obtain rfl : τ = ended := hτ
  have hcourse : SchedulerCourse scheduler [.shutDown false, .start true] ended :=
    .next (.next .start (rfl : (storing none).perform _ _ = _)) hperform
  obtain ⟨r, τ, t, hshut, -, hrepeated, -⟩ := shutdown_only_once hcourse true (storing none)
  exact ⟨hcourse, r, τ, t, hshut, hrepeated rfl⟩

open Restart (home everySecond storing scheduler) in
/-- A start after the shutdown registers a task and records the daemon, and the next shutdown
leaves both, though it succeeds. -/
theorem shutdown_without_effect :
    ∃ ended ∈ (storing (some (Schedule.fileText [everySecond]))).perform scheduler
        (Scheduler.shutDown false),
      ∃ started ∈ ended.2.perform ended.1.2 (Scheduler.start true),
        ∃ last ∈ started.2.perform started.1.2 (Scheduler.shutDown true),
          last.1.1 = .ok () ∧ last.1.2.tasks.names = ["a"] ∧
            last.2.machine.files.read "/" home.pidFile = .ok "7" := by
  decide +kernel

end SchedulerCourse

end Runbook
