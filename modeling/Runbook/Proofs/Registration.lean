import Runbook.Proofs.AddedInTurn
import Runbook.Proofs.StartOutcome

/-!
Which schedules get a task. Main statement: a reload registers every enabled schedule whose times
can be read and rejects every other enabled one, each in its place, whatever the others are and
whatever tasks there were; and a schedule that was added from a file is registered by every later
reload.
-/

namespace Runbook

namespace Bindings

variable {α κ : Type} [DecidableEq κ] [LT κ] [DecidableLT κ]

theorem find?_ofPairs_of_mem {pairs : List (κ × α)} (hpairs : (names pairs).Nodup) {name : κ}
    {value : α} (h : (name, value) ∈ pairs) : (ofPairs pairs).find? name = some value := by
  obtain ⟨other, hother⟩ := Option.isSome_iff_exists.mp
    (isBound_iff_mem_names.mpr (mem_names_ofPairs.mpr (List.mem_map_of_mem h)))
  have hcount : (names pairs).count name ≤ 1 := List.nodup_iff_count.mp hpairs name
  rw [hother, eq_of_count_names hcount (mem_ofPairs (mem_of_find? hother)) h]

omit [DecidableEq κ] [DecidableLT κ] in
theorem Sorted.nodup_names [LE κ] [Std.IsLinearOrder κ] [Std.LawfulOrderLT κ] {m : Bindings α κ}
    (h : m.Sorted) : m.names.Nodup :=
  (List.pairwise_map.mpr h).imp fun hlt => Std.ne_of_lt hlt

end Bindings

namespace Schedule

/-! ### Times -/

def times (s : Schedule) : Computed (Except ScheduleError (Cron × Zone)) :=
  (Cron.parse s.cron).map fun cron => do return (← cron, ← Zone.resolve s.timezone)

def HasTimes (s : Schedule) : Prop :=
  (∃ cron, Cron.parse s.cron = .ok (.ok cron)) ∧ ∃ zone, Zone.resolve s.timezone = .ok zone

theorem times_eq_ok_iff {s : Schedule} {cron : Cron} {zone : Zone} :
    s.times = .ok (.ok (cron, zone)) ↔
      Cron.parse s.cron = .ok (.ok cron) ∧ Zone.resolve s.timezone = .ok zone := by
  unfold times
  rcases Cron.parse s.cron with e | e | c
  · simp [Except.map]
  · simp [Except.map, bind, Except.bind]
  · cases Zone.resolve s.timezone <;> simp [Except.map, bind, Except.bind, pure, Except.pure]

theorem hasTimes_iff {s : Schedule} :
    s.HasTimes ↔ ∃ cron zone, s.times = .ok (.ok (cron, zone)) := by
  simp only [times_eq_ok_iff, HasTimes, exists_and_left, exists_and_right]

def times? (s : Schedule) : Option (Cron × Zone) := s.times.toOption.bind Except.toOption

theorem times?_eq_some_iff {s : Schedule} {cron : Cron} {zone : Zone} :
    s.times? = some (cron, zone) ↔ s.times = .ok (.ok (cron, zone)) := by
  unfold times?
  rcases s.times with e | e | ⟨c, z⟩ <;> simp [Except.toOption]

instance (s : Schedule) : Decidable s.HasTimes :=
  decidable_of_iff (s.times?.isSome = true) (by
    simp only [hasTimes_iff, Option.isSome_iff_exists, Prod.exists, times?_eq_some_iff])

def refusal (s : Schedule) : String :=
  match s.times with
  | .ok (.error e) => e.message
  | _ => ""

def taskAt? (s : Schedule) (now : Timestamp) : Option ScheduledTask :=
  s.times?.map fun (cron, zone) => ⟨s, cron, zone, Scheduler.waitOf cron zone now⟩

def tasksAt (schedules : List Schedule) (now : Timestamp) : Bindings ScheduledTask :=
  schedules.filterMap fun s => (s.taskAt? now).map (s.id, ·)

theorem taskAt?_eq_some_iff {s : Schedule} {now : Timestamp} {task : ScheduledTask} :
    s.taskAt? now = some task ↔ task.schedule = s ∧ s.times = .ok (.ok (task.cron, task.zone)) ∧
      task.wait = Scheduler.waitOf task.cron task.zone now := by
  obtain ⟨schedule, cron, zone, wait⟩ := task
  rw [← times?_eq_some_iff, taskAt?]
  cases s.times? with
  | none => simp
  | some times =>
    simp only [Option.map_some, Option.some.injEq, ScheduledTask.mk.injEq, Prod.ext_iff]
    constructor
    · rintro ⟨rfl, rfl, rfl, rfl⟩
      exact ⟨rfl, ⟨rfl, rfl⟩, rfl⟩
    · rintro ⟨rfl, ⟨rfl, rfl⟩, rfl⟩
      exact ⟨rfl, rfl, rfl, rfl⟩

theorem mem_tasksAt_iff {schedules : List Schedule} {now : Timestamp} {id : String}
    {task : ScheduledTask} : (id, task) ∈ tasksAt schedules now ↔
      ∃ s ∈ schedules, s.id = id ∧ s.taskAt? now = some task := by
  simp only [tasksAt, List.mem_filterMap, Option.map_eq_some_iff, Prod.mk.injEq]
  constructor
  · rintro ⟨s, hs, _, htask, hid, rfl⟩
    exact ⟨s, hs, hid, htask⟩
  · rintro ⟨s, hs, hid, htask⟩
    exact ⟨s, hs, task, htask, hid, rfl⟩

theorem hasTimes_of_taskAt? {s : Schedule} {now : Timestamp} {task : ScheduledTask}
    (h : s.taskAt? now = some task) : s.HasTimes :=
  hasTimes_iff.mpr ⟨_, _, (taskAt?_eq_some_iff.mp h).2.1⟩

theorem not_hasTimes_of_times {s : Schedule} {e : ScheduleError} (h : s.times = .ok (.error e)) :
    ¬ s.HasTimes := by
  rw [hasTimes_iff]
  rintro ⟨cron, zone, htimes⟩
  cases h.symm.trans htimes

theorem tasksAt_cons_of_taskAt? {s : Schedule} {now : Timestamp} {task : ScheduledTask}
    (h : s.taskAt? now = some task) (rest : List Schedule) :
    tasksAt (s :: rest) now = (s.id, task) :: tasksAt rest now := by
  simp [tasksAt, h]

theorem tasksAt_cons_of_taskAt?_none {s : Schedule} {now : Timestamp} (h : s.taskAt? now = none)
    (rest : List Schedule) : tasksAt (s :: rest) now = tasksAt rest now := by
  simp [tasksAt, h]

theorem taskAt?_of_not_hasTimes {s : Schedule} (h : ¬ s.HasTimes) (now : Timestamp) :
    s.taskAt? now = none := by
  cases htask : s.taskAt? now with
  | none => rfl
  | some task => exact absurd (hasTimes_of_taskAt? htask) h

theorem names_tasksAt (schedules : List Schedule) (now : Timestamp) :
    (tasksAt schedules now).names = (schedules.filter (·.HasTimes)).map Schedule.id := by
  induction schedules with
  | nil => rfl
  | cons s rest ih =>
    by_cases htimes : s.HasTimes
    · obtain ⟨cron, zone, hread⟩ := hasTimes_iff.mp htimes
      have htask : s.taskAt? now = some ⟨s, cron, zone, Scheduler.waitOf cron zone now⟩ :=
        taskAt?_eq_some_iff.mpr ⟨rfl, hread, rfl⟩
      rw [List.filter_cons_of_pos (by simpa using htimes), List.map_cons, ← ih,
        tasksAt_cons_of_taskAt? htask]
      rfl
    · rw [List.filter_cons_of_neg (by simpa using htimes), ← ih,
        tasksAt_cons_of_taskAt?_none (taskAt?_of_not_hasTimes htimes now)]

end Schedule

/-! ### Reports -/

def StartReport.of (schedules : List Schedule) : StartReport where
  registered := (schedules.filter (·.HasTimes)).map Schedule.id
  rejected := (schedules.filter (¬ ·.HasTimes)).map fun s => (s.id, s.refusal)

theorem StartReport.of_cons_of_hasTimes {s : Schedule} (h : s.HasTimes) (rest : List Schedule) :
    StartReport.of (s :: rest) =
      { StartReport.of rest with registered := s.id :: (StartReport.of rest).registered } := by
  simp [StartReport.of, h]

theorem StartReport.of_cons_of_times {s : Schedule} {e : ScheduleError} (h : s.times = .ok (.error e))
    (rest : List Schedule) : StartReport.of (s :: rest) =
      { StartReport.of rest with
        rejected := (s.id, e.message) :: (StartReport.of rest).rejected } := by
  simp [StartReport.of, Schedule.not_hasTimes_of_times h, Schedule.refusal, h]

namespace Scheduler

open Program
open Scheduling (Keeps)
open CheckedScheduling (keeps_bind keeps_lift keeps_get keeps_modify keeps_except keeps_computed)
open SchedulerRehearsal (contract keeps_procedure)

variable {s : SchedulerRehearsal} {σ : Scheduler} {may : Halt → Prop}

theorem rehearsal_keeps_notify {n : SchedulerNotice}
    {post : SchedulerRehearsal → Scheduler → Unit → Prop}
    (hpost : ∀ t, t.machine = s.machine → post t σ ()) :
    Keeps (contract may) post s σ (Scheduling.notify n) :=
  keeps_notify (SchedulerRehearsal.isIdle s.machine) rfl hpost

/-- A schedule that has times gets its task, and another one none. -/
theorem rehearsal_keeps_register {schedule : Schedule}
    {post : SchedulerRehearsal → Scheduler → Except ScheduleError Unit → Prop}
    (hok : ∀ t task, t.machine = s.machine → schedule.taskAt? s.machine.time = some task →
      post t { σ with tasks := σ.tasks.bind schedule.id task } (.ok ()))
    (herror : ∀ e, schedule.times = .ok (.error e) → post s σ (.error e))
    (hover : Cron.parse schedule.cron = .error .overflow → may .overflow) :
    Keeps (contract may) post s σ (register schedule).run := by
  unfold register
  refine keeps_bind (keeps_computed (fun cron hcron => ?_) hover)
  cases cron with
  | error e => exact herror e (by simp [Schedule.times, hcron, Except.map, bind, Except.bind])
  | ok cron =>
    refine keeps_bind (keeps_except.mpr ?_)
    cases hzone : Zone.resolve schedule.timezone with
    | error e =>
      exact herror e (by simp [Schedule.times, hcron, hzone, Except.map, bind, Except.bind])
    | ok zone =>
      refine keeps_bind (keeps_lift (keeps_procedure (Machine.keeps_now ?_)))
      refine keeps_bind (keeps_lift (rehearsal_keeps_notify fun t ht => ?_))
      refine hok t ⟨schedule, cron, zone, _⟩ ht (Schedule.taskAt?_eq_some_iff.mpr ⟨rfl, ?_, rfl⟩)
      exact Schedule.times_eq_ok_iff.mpr ⟨hcron, hzone⟩

theorem rehearsal_keeps_registerAll {schedules : List Schedule}
    {post : SchedulerRehearsal → Scheduler → StartReport → Prop}
    (hpost : ∀ t, t.machine = s.machine →
      post t { σ with tasks := σ.tasks.bindAll (Schedule.tasksAt schedules s.machine.time) }
        (.of schedules))
    (hover : ∀ schedule ∈ schedules, Cron.parse schedule.cron = .error .overflow →
      may .overflow) : Keeps (contract may) post s σ (registerAll schedules) := by
  induction schedules generalizing s σ post with
  | nil => exact hpost s rfl
  | cons schedule rest ih =>
    obtain ⟨hfirst, hrest⟩ := List.forall_mem_cons.mp hover
    refine Scheduling.keeps_bind.mpr
      (rehearsal_keeps_register (fun t task ht htask => ?_) (fun e he => ?_) hfirst)
    · refine Scheduling.keeps_bind.mpr (ih (fun u hu => ?_) hrest)
      have hend := hpost u (hu.trans ht)
      rw [Schedule.tasksAt_cons_of_taskAt? htask,
        StartReport.of_cons_of_hasTimes (Schedule.hasTimes_of_taskAt? htask)] at hend
      rw [ht]
      exact hend
    · refine Scheduling.keeps_bind.mpr (rehearsal_keeps_notify fun t ht => ?_)
      refine Scheduling.keeps_bind.mpr (ih (fun u hu => ?_) hrest)
      have hnone := Schedule.taskAt?_of_not_hasTimes (Schedule.not_hasTimes_of_times he)
      have hend := hpost u (hu.trans ht)
      rw [Schedule.tasksAt_cons_of_taskAt?_none (hnone _), StartReport.of_cons_of_times he] at hend
      rw [ht]
      exact hend

/-- The scheduler with the tasks of the enabled ones among schedules, from a time on. -/
def reloaded (σ : Scheduler) (schedules : List Schedule) (now : Timestamp) : Scheduler :=
  let tasks := Bindings.ofPairs (Schedule.tasksAt (schedules.filter Schedule.enabled) now)
  { σ with tasks }

/-- A reload replaces all tasks by those of the schedules that are enabled in the store, unless they
cannot be loaded, in which case there are none. -/
theorem rehearsal_keeps_reload_registers
    {post : SchedulerRehearsal → Scheduler → Except ScheduleError StartReport → Prop}
    (hok : ∀ t schedules,
      σ.store.loaded (s.machine.files.read s.machine.current σ.store.path) = .ok schedules →
      t.machine = s.machine → post t (σ.reloaded schedules s.machine.time)
        (.ok (.of (schedules.filter Schedule.enabled))))
    (herror : ∀ e,
      σ.store.loaded (s.machine.files.read s.machine.current σ.store.path) = .error e →
      post s { σ with tasks := [] } (.error e))
    (hover : σ.store.HoldsOverflow (s.machine.files.read s.machine.current σ.store.path) →
      may .overflow) : Keeps (contract may) post s σ reload.run := by
  refine keeps_bind (keeps_modify.mpr (keeps_bind (keeps_get.mpr ?_)))
  refine keeps_bind (CheckedScheduling.keeps_procedure.mpr
    (SchedulerRehearsal.keeps_onSystem (Machine.keeps_load σ.store ?_)))
  cases hload : σ.store.loaded (s.machine.files.read s.machine.current σ.store.path) with
  | error e => exact herror e hload
  | ok schedules =>
    have hregister : ∀ t, t.machine = s.machine → Keeps (contract may) post t { σ with tasks := [] }
        (liftM (registerAll (schedules.filter Schedule.enabled)) : CheckedScheduling _).run := by
      intro t ht
      refine keeps_lift (rehearsal_keeps_registerAll (fun u hu => ?_) fun schedule hmem hparse => ?_)
      · rw [ht] at hu ⊢
        exact hok u schedules hload hu
      · obtain ⟨hstored, henabled⟩ := List.mem_filter.mp hmem
        exact hover ⟨schedules, hload, schedule, hstored, henabled, hparse⟩
    dsimp only
    split
    · exact keeps_bind (keeps_lift (rehearsal_keeps_notify hregister))
    · exact hregister s rfl

/-! ### What is registered -/

/-- What becomes of the schedules of a store at a time: of those that are enabled, the ones that
have times are registered and the others rejected, in their order. The tasks are those of the former,
and where no two of the enabled ones share an id, each has its own. -/
structure Registers (schedules : List Schedule) (now : Timestamp) (report : StartReport)
    (tasks : Bindings ScheduledTask) : Prop where
  registered : report.registered =
    (schedules.filter fun s => s.enabled ∧ s.HasTimes).map Schedule.id
  rejected : report.rejected =
    (schedules.filter fun s => s.enabled ∧ ¬ s.HasTimes).map fun s => (s.id, s.refusal)
  bound : ∀ id, tasks.isBound id = true ↔ id ∈ report.registered
  fresh : ∀ id task, tasks.find? id = some task →
    ∃ s ∈ schedules, s.enabled = true ∧ s.id = id ∧ s.taskAt? now = some task
  distinct : ((schedules.filter Schedule.enabled).map Schedule.id).Nodup →
    tasks.names.Perm report.registered ∧
      ∀ s ∈ schedules, s.enabled = true → s.HasTimes → tasks.find? s.id = s.taskAt? now

theorem registers_reloaded (σ : Scheduler) (schedules : List Schedule) (now : Timestamp) :
    Registers schedules now (.of (schedules.filter Schedule.enabled))
      (σ.reloaded schedules now).tasks := by
  have hbound : ∀ id, (σ.reloaded schedules now).tasks.isBound id = true ↔
      id ∈ (StartReport.of (schedules.filter Schedule.enabled)).registered := by
    intro id
    rw [reloaded, Bindings.isBound_iff_mem_names, Bindings.mem_names_ofPairs]
    change id ∈ Bindings.names _ ↔ _
    rw [Schedule.names_tasksAt]
    rfl
  have hnames : ((schedules.filter Schedule.enabled).map Schedule.id).Nodup →
      ((schedules.filter Schedule.enabled |>.filter (·.HasTimes)).map Schedule.id).Nodup :=
    fun hdistinct => hdistinct.sublist (List.filter_sublist.map _)
  refine ⟨?_, ?_, hbound, fun id task hfind => ?_,
    fun hdistinct => ⟨?_, fun s hs henabled htimes => ?_⟩⟩
  · simp [StartReport.of, List.filter_filter, Bool.and_comm]
  · simp [StartReport.of, List.filter_filter, Bool.and_comm]
  · have hmem := Bindings.mem_ofPairs (Bindings.mem_of_find? hfind)
    obtain ⟨s, hs, hid, htask⟩ := Schedule.mem_tasksAt_iff.mp hmem
    obtain ⟨hschedule, henabled⟩ := List.mem_filter.mp hs
    exact ⟨s, hschedule, henabled, hid, htask⟩
  · have hsorted : (σ.reloaded schedules now).tasks.Sorted := Bindings.sorted_ofPairs _
    refine (List.perm_ext_iff_of_nodup hsorted.nodup_names (hnames hdistinct)).mpr fun id => ?_
    rw [← Bindings.isBound_iff_mem_names, hbound]
    rfl
  · obtain ⟨cron, zone, hread⟩ := Schedule.hasTimes_iff.mp htimes
    have htask : s.taskAt? now = some ⟨s, cron, zone, waitOf cron zone now⟩ :=
      Schedule.taskAt?_eq_some_iff.mpr ⟨rfl, hread, rfl⟩
    rw [htask]
    refine Bindings.find?_ofPairs_of_mem ?_ (Schedule.mem_tasksAt_iff.mpr ⟨s, ?_, rfl, htask⟩)
    · rw [Schedule.names_tasksAt]
      exact hnames hdistinct
    · exact List.mem_filter.mpr ⟨hs, henabled⟩

end Scheduler

/-! ### Schedules that were added -/

namespace ScheduleStore

open Program
open Machine (keeps_locked keeps_now keeps_writeSchedules)

variable {store : ScheduleStore} {m : Machine} {file : FilePath}

theorem keeps_add_toSchedule (new : NewSchedule) :
    Keeps (Machine.contractUnless fun _ => True) (fun _ r => ∀ s, r = .ok s →
      ∃ id time, s = new.toSchedule id time) m (store.add new).run := by
  refine keeps_locked (keeps_except_bind (Machine.keeps_load store ?_).unless)
  cases store.loaded (m.files.read m.current store.path) with
  | error e => rintro s ⟨⟩
  | ok stored =>
    refine keeps_except_bind (keeps_lift (Schedule.keeps_freshId (.inl trivial) fun name _ => ?_))
    refine keeps_except_bind (keeps_lift (keeps_now ?_).unless)
    refine keeps_except_bind (keeps_writeSchedules store (fun files _ => ?_)
      fun _ next e => ?_).unless
    · exact fun s hs => ⟨_, _, (Except.ok.inj hs).symm⟩
    · rintro s ⟨⟩

theorem keeps_addDefinitions_hasTimes (definitions : List ScheduleDefinition) :
    Keeps (Machine.contractUnless fun _ => True) (fun _ r => ∀ report : AddReport, r = .ok report →
      ∀ s ∈ report.added, s.enabled = true ∧ s.HasTimes) m
      (store.addDefinitions file definitions).run := by
  induction definitions generalizing m with
  | nil =>
    rintro report ⟨⟩ s hs
    cases hs
  | cons d rest ih =>
    refine keeps_except_bind (keeps_lift (ScheduleDefinition.keeps_prepare (fun _ => trivial)
      fun verdict hprepared => ?_))
    cases verdict with
    | error cause =>
      refine keeps_except_bind (ih.mono fun next r hr => ?_)
      cases r with
      | error e => rintro report ⟨⟩
      | ok others =>
        rintro report ⟨⟩ s hs
        exact hr others rfl s hs
    | ok new =>
      refine keeps_except_bind ((keeps_add_toSchedule new).mono fun next r hr => ?_)
      cases r with
      | error e => rintro report ⟨⟩
      | ok schedule =>
        obtain ⟨id, time, rfl⟩ := hr schedule rfl
        refine keeps_except_bind (ih.mono fun last r hr => ?_)
        cases r with
        | error e => rintro report ⟨⟩
        | ok others =>
          rintro report ⟨⟩ s hs
          rcases List.mem_cons.mp hs with rfl | hs
          · exact ⟨rfl, ScheduleDefinition.times_of_prepared hprepared⟩
          · exact hr others rfl s hs

theorem hasTimes_of_perform_addFile {report : AddReport} {next : Machine}
    (h : m.perform (store.addFile file).run = some (.ok report, next)) :
    ∀ s ∈ report.added, s.enabled = true ∧ s.HasTimes := by
  have hadd : Keeps (Machine.contractUnless fun _ => True) (fun _ r => ∀ report : AddReport,
      r = .ok report → ∀ s ∈ report.added, s.enabled = true ∧ s.HasTimes) m
      (store.addFile file).run := by
    obtain ⟨loaded, hload⟩ := ScheduleDefinition.exists_perform_load m file
    refine keeps_except_bind ((keeps_of_finish hload).unless.mono ?_)
    rintro t r ⟨rfl, rfl⟩
    cases r with
    | error e => rintro report ⟨⟩
    | ok definitions => exact keeps_addDefinitions_hasTimes definitions
  exact hadd.fits h report rfl

end ScheduleStore

namespace Scheduler

/-- What a reload comes to if it comes to an end. -/
structure ReloadEnds (s : SchedulerRehearsal) (σ : Scheduler) (r : Except ScheduleError StartReport)
    (τ : Scheduler) (t : SchedulerRehearsal) : Prop where
  machine : t.machine = s.machine
  unloaded : ∀ e, s.machine.perform σ.store.load.run = some (.error e, s.machine) →
    r = .error e ∧ τ.tasks = []
  loaded : ∀ schedules, s.machine.perform σ.store.load.run = some (.ok schedules, s.machine) →
    ∃ report, r = .ok report ∧ Registers schedules s.machine.time report τ.tasks

theorem reloadEnds_or (s : SchedulerRehearsal) (σ : Scheduler) :
    (∃ r τ t, s.perform σ reload = some ((r, τ), t) ∧ ReloadEnds s σ r τ t) ∨
    s.perform σ reload = none ∧ ∃ schedules, Schedule.HasOverflow schedules ∧
      s.machine.perform σ.store.load.run = some (.ok schedules, s.machine) := by
  have hreload : Scheduling.Keeps
      (SchedulerRehearsal.contract fun _ =>
        σ.store.HoldsOverflow (s.machine.files.read s.machine.current σ.store.path))
      (fun t τ r => ReloadEnds s σ r τ t) s σ reload.run := by
    refine rehearsal_keeps_reload_registers (fun t schedules hload ht => ?_) (fun e hload => ?_) id
    · refine ⟨ht, fun e he => ?_, fun others hothers => ?_⟩
      · rw [Machine.perform_load, hload] at he
        cases he
      · rw [Machine.perform_load, hload] at hothers
        obtain rfl : schedules = others := Except.ok.inj (Prod.mk.inj (Option.some.inj hothers)).1
        exact ⟨_, rfl, registers_reloaded σ schedules s.machine.time⟩
    · refine ⟨rfl, fun other hother => ?_, fun schedules hschedules => ?_⟩
      · rw [Machine.perform_load, hload] at hother
        obtain rfl : e = other := Except.error.inj (Prod.mk.inj (Option.some.inj hother)).1
        exact ⟨rfl, rfl⟩
      · rw [Machine.perform_load, hload] at hschedules
        cases hschedules
  refine (SchedulerRehearsal.exists_of_keeps_or hreload).imp_right ?_
  rintro ⟨hnone, -, schedules, hload, hover⟩
  exact ⟨hnone, schedules, hover, by rw [Machine.perform_load, hload]⟩

/-- A reload comes to an end, unless an enabled schedule of the store has an expression that
overflows. It does not touch the machine, and the tasks before do not count. If the schedules of the
store cannot be loaded, there are no tasks. Otherwise each enabled one is registered or rejected by
itself. A schedule that was added from a file is registered by every reload that loads it and comes
to an end, whenever it was run last. -/
theorem reload_registers :
    (∀ (s : SchedulerRehearsal) (σ : Scheduler),
      (∀ tasks, s.perform { σ with tasks } reload = s.perform σ reload) ∧
      ((∃ r τ t, s.perform σ reload = some ((r, τ), t) ∧ ReloadEnds s σ r τ t) ∨
      s.perform σ reload = none ∧ ∃ schedules, Schedule.HasOverflow schedules ∧
        s.machine.perform σ.store.load.run = some (.ok schedules, s.machine))) ∧
    ∀ (store : ScheduleStore) (m next : Machine) (file : FilePath) (report : AddReport),
      m.perform (store.addFile file).run = some (.ok report, next) → ∀ added ∈ report.added,
      ∀ (s : SchedulerRehearsal) (σ : Scheduler) (schedules : List Schedule)
        (lastRun : Option Timestamp),
        s.machine.perform σ.store.load.run = some (.ok schedules, s.machine) →
        { added with lastRun } ∈ schedules →
        (∃ started τ t, s.perform σ reload = some ((.ok started, τ), t) ∧
          added.id ∈ started.registered ∧ τ.tasks.isBound added.id = true) ∨
        s.perform σ reload = none ∧ Schedule.HasOverflow schedules := by
  constructor
  · exact fun s σ => ⟨fun tasks => rfl, reloadEnds_or s σ⟩
  · intro store m next file report hadd added hadded s σ schedules lastRun hload hmem
    rcases reloadEnds_or s σ with ⟨r, τ, t, hperform, hends⟩ | ⟨hnone, others, hover, hothers⟩
    · left
      obtain ⟨started, rfl, hregisters⟩ := hends.loaded schedules hload
      obtain ⟨henabled, htimes⟩ := ScheduleStore.hasTimes_of_perform_addFile hadd added hadded
      have hid : added.id ∈ started.registered := by
        rw [hregisters.registered]
        refine List.mem_map.mpr ⟨_, List.mem_filter.mpr ⟨hmem, ?_⟩, rfl⟩
        exact decide_eq_true ⟨henabled, htimes⟩
      exact ⟨started, τ, t, hperform, hid, (hregisters.bound added.id).mpr hid⟩
    · cases hload.symm.trans hothers
      exact .inr ⟨hnone, hover⟩

/-! ### Schedules of every kind -/

namespace MixedStore

/-- One schedule that has times, one whose expression cannot be read, and one that is disabled. -/
def schedules : List Schedule :=
  [⟨"a", none, "/a.yaml", "0 3 * * *", true, ⟨0, 0⟩, none, none, none, none⟩,
    ⟨"b", none, "/a.yaml", "not a cron", true, ⟨0, 0⟩, none, none, none, none⟩,
    ⟨"c", none, "/a.yaml", "0 4 * * *", false, ⟨0, 0⟩, none, none, none, none⟩]

def machine : Machine :=
  ⟨⟨[(["schedules.json"], ⟨some (Schedule.fileText schedules), ⟨0, 0⟩⟩)]⟩, "/", ⟨0, 0⟩, 7, [], 0⟩

def store : ScheduleStore := ⟨"schedules.json"⟩

theorem not_hasOverflow_schedules : ¬ Schedule.HasOverflow schedules := by
  unfold Schedule.HasOverflow
  decide +kernel

theorem perform_load_schedules :
    machine.perform store.load.run = some (.ok schedules, machine) := by
  have htimed : ∀ s ∈ schedules, s.IsTimed := by
    intro s hs
    have hzero : Timestamp.IsShown ⟨0, 0⟩ :=
      Timestamp.isShown_of_year (by decide) (by decide) (by decide)
    simp only [schedules, List.mem_cons, List.not_mem_nil, or_false] at hs
    rcases hs with rfl | rfl | rfl <;> exact ⟨hzero, fun t ht => by cases ht⟩
  have hread : machine.files.read machine.current store.path =
      .ok (Schedule.fileText schedules) :=
    FileTree.read_eq_ok_iff.mpr ⟨["schedules.json"], by decide +kernel, rfl⟩
  rw [Machine.perform_load, hread, ScheduleStore.loaded_fileText htimed]

end MixedStore

/-- A scheduler with another task reloads a store with schedules of every kind. The schedules that
were added from a file are registered by a reload after that. -/
theorem reload_registers_mixed :
    let runs := BrokenStore.rehearsal.runs
    let daemon := BrokenStore.home.daemonFiles
    (∃ report τ t, SchedulerRehearsal.perform ⟨MixedStore.machine, runs, [], [], []⟩
        ⟨MixedStore.store, daemon, [("z", BrokenStore.task)], false⟩ reload =
          some ((.ok report, τ), t) ∧
      report.registered = ["a"] ∧ report.rejected.map Prod.fst = ["b"] ∧ τ.tasks.names = ["a"]) ∧
    ∃ report next, ScheduleStore.OwnFile.machine.perform
        (ScheduleStore.OwnFile.emptyStore.addFile "s.json").run = some (.ok report, next) ∧
      ∀ added ∈ report.added, ∃ started τ t, SchedulerRehearsal.perform ⟨next, runs, [], [], []⟩
        ⟨ScheduleStore.OwnFile.emptyStore, daemon, [], false⟩ reload = some ((.ok started, τ), t) ∧
          added.id ∈ started.registered := by
  intro runs daemon
  constructor
  · have hreload := (reload_registers.1 ⟨MixedStore.machine, runs, [], [], []⟩
      ⟨MixedStore.store, daemon, [("z", BrokenStore.task)], false⟩).2
    have hends : ¬ ∃ schedules, Schedule.HasOverflow schedules ∧
        MixedStore.machine.perform MixedStore.store.load.run =
          some (.ok schedules, MixedStore.machine) := by
      rintro ⟨schedules, hover, hload⟩
      cases MixedStore.perform_load_schedules.symm.trans hload
      exact MixedStore.not_hasOverflow_schedules hover
    obtain ⟨r, τ, t, hperform, hr⟩ := hreload.resolve_right fun halted => hends halted.2
    obtain ⟨report, rfl, hregisters⟩ := hr.loaded _ MixedStore.perform_load_schedules
    have hregistered : report.registered = ["a"] := by
      rw [hregisters.registered]
      decide +kernel
    refine ⟨report, τ, t, hperform, hregistered, ?_, ?_⟩
    · rw [hregisters.rejected]
      decide +kernel
    · have hperm := (hregisters.distinct (by decide +kernel)).1
      rw [hregistered] at hperm
      exact List.perm_singleton.mp hperm
  · obtain ⟨saved, result, next, outcomes, hsave, hperform, hadded⟩ :=
      ScheduleStore.OwnFile.exists_added
    obtain rfl := hadded.report
    refine ⟨_, next, hperform, fun added hmem => ?_⟩
    have hstored : added ∈ [] ++ (AddReport.of ScheduleStore.OwnFile.definitions outcomes).added :=
      List.mem_append_right [] hmem
    have hlater := reload_registers.2 _ _ next _ _ hperform added hmem
      ⟨next, runs, [], [], []⟩ ⟨ScheduleStore.OwnFile.emptyStore, daemon, [], false⟩ _
      added.lastRun hadded.stored
    have hnone : ¬ Schedule.HasOverflow
        ([] ++ (AddReport.of ScheduleStore.OwnFile.definitions outcomes).added) := by
      rintro ⟨s, hs, -, hparse⟩
      obtain ⟨-, ⟨cron, hcron⟩, -⟩ := ScheduleStore.hasTimes_of_perform_addFile hperform s hs
      cases hcron.symm.trans hparse
    obtain ⟨started, τ, t, hreload, hid, -⟩ :=
      (hlater hstored).resolve_right fun hover => hnone hover.2
    exact ⟨started, τ, t, hreload, hid⟩

end Scheduler

end Runbook
