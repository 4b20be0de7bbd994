import Runbook.Proofs.DaemonFiles
import Runbook.Proofs.DaemonProcesses

/-!
At most one daemon. A process owns the daemon's file from the moment it records itself, and every
process that may act on what it saw in the file knows who may own it. Main statement: while processes
keep out of each other's way, the daemon's file names every process that serves, so there is one of
them at most. Where they do not, two processes may serve at once, and a process that serves may lose
its file.
-/

namespace Runbook

/-! ### Files after a call -/

namespace Machine

variable {m : Machine} {paths : StatePaths} {process : Nat} {v : DaemonView} {text : String}

theorem read_of_changed {path : FilePath} {name : String} {changing : List FilePath}
    {change : Except SystemError FileTree} (hpath : path.LeadsTo name)
    (hother : ∀ q ∈ changing, ∃ other, other ≠ name ∧ q.LeadsTo other)
    (hspares : ∀ files, change = .ok files → FileTree.Spares m.current changing m.files files)
    (hread : m.files.read m.current path = .ok text) :
    (m.changed change).2.files.read m.current path = .ok text := by
  cases hresult : change with
  | ok files => exact (hspares files hresult).read hpath hother hread
  | error e => exact hread

/-- A call that may be made lets the daemon's file be read as before, unless it records a process or
there is no daemon. -/
theorem read_of_reply {c : SystemCall}
    (hallows : DaemonView.Allows paths.daemonFiles process v (.system c))
    (hrecords : v.stage.after paths.daemonFiles (.system c) (m.reply c).1 = .recorded →
      v.stage = .recorded)
    (hdaemon : v ≠ .engaged none)
    (hread : m.files.read m.current paths.daemonFiles.pidFile = .ok text) :
    (m.reply c).2.files.read m.current paths.daemonFiles.pidFile = .ok text := by
  have hpid := paths.pidFile_leadsTo
  have hstart := paths.startTimeFile_leadsTo
  have hother : ∀ q ∈ [paths.daemonFiles.startTimeFile], ∃ other, other ≠ "scheduler.pid" ∧
      q.LeadsTo other := by
    simpa using ⟨"scheduler.started", by decide, hstart⟩
  generalize paths.daemonFiles = daemon at *
  cases c with
  | write path content =>
    simp only [reply] at hrecords ⊢
    generalize hchange : m.files.write m.current m.time path (fun _ => content) = change at *
    rcases hallows with rfl | ⟨rfl, -, hview⟩
    · refine read_of_changed hpid hother (fun files hfiles => ?_) hread
      exact (FileTree.write_eq_ok hstart.no_slash (hchange.trans hfiles)).1
    · have hengaged : v.stage = .engaged := by rcases hview with rfl | rfl <;> rfl
      cases change with
      | error e => exact hread
      | ok files => simp [changed, DaemonStage.after, hengaged] at hrecords
  | remove path =>
    simp only [reply]
    generalize hchange : m.files.remove m.current path = change at *
    rcases hallows with rfl | ⟨-, hnone⟩
    · refine read_of_changed hpid hother (fun files hfiles => ?_) hread
      exact (FileTree.removes_of_remove hstart.no_slash (hchange.trans hfiles)).spares
    · exact absurd hnone hdaemon
  | makeDirectories path =>
    simp only [reply]
    generalize hchange : m.files.makeDirectories m.current m.time path (path.names.length + 1) =
      change
    refine read_of_changed hpid (fun q hq => (List.not_mem_nil hq).elim) (fun files hfiles => ?_) hread
    exact FileTree.spares_makeDirectories (hchange.trans hfiles)
  | signal other t =>
    simp only [reply, files_signal]
    exact hread
  | read path => exact hread
  | modified path => exact hread
  | processId => exact hread
  | isAlive other => exact hread
  | sleep d => exact hread
  | now => exact hread
  | _ => exact hallows.elim

theorem Names.reply {c : SystemCall} {pid : Nat}
    (hallows : DaemonView.Allows paths.daemonFiles process v (.system c))
    (hrecords : v.stage.after paths.daemonFiles (.system c) (m.reply c).1 = .recorded →
      v.stage = .recorded)
    (hdaemon : v ≠ .engaged none) (h : m.Names paths.daemonFiles pid) :
    (m.reply c).2.Names paths.daemonFiles pid := by
  obtain ⟨text, hread, hnumber⟩ := h
  refine ⟨text, ?_, hnumber⟩
  rw [current_reply]
  exact read_of_reply hallows hrecords hdaemon hread

theorem names_of_recorded {c : SystemCall} (hprocess : process ≤ greatestPid)
    (hallows : DaemonView.Allows paths.daemonFiles process v (.system c))
    (hrecords : v.stage.after paths.daemonFiles (.system c) (m.reply c).1 = .recorded)
    (hstage : v.stage ≠ .recorded) :
    (∃ content, c = .write paths.daemonFiles.pidFile content) ∧
      (v = .engaged none ∨ v = .engaged (some process)) ∧
        (m.reply c).2.Names paths.daemonFiles process := by
  have hpid := paths.pidFile_leadsTo.no_slash
  have hne := paths.pidFile_ne_startTimeFile
  generalize paths.daemonFiles = daemon at *
  cases c with
  | write path content =>
    simp only [reply] at hrecords ⊢
    generalize hchange : m.files.write m.current m.time path (fun _ => content) = change at *
    cases change with
    | error e => exact absurd hrecords hstage
    | ok files =>
      by_cases hpath : path = daemon.pidFile
      · subst hpath
        rcases hallows with heq | ⟨-, rfl, hview⟩
        · exact absurd heq hne
        · obtain ⟨-, old, hread⟩ := FileTree.write_eq_ok hpid hchange
          exact ⟨⟨_, rfl⟩, hview, _, hread, Daemon.readPid?_toString hprocess⟩
      · simp [changed, DaemonStage.after, hpath, hstage] at hrecords
  | read path =>
    simp only [DaemonStage.after] at hrecords
    split at hrecords
    · cases hrecords
    · exact absurd hrecords hstage
  | _ => exact absurd hrecords hstage

end Machine

namespace DaemonRequest

/-- What is known at the beginning of a request: a shutdown as the daemon begins when no process may
be the daemon any more. -/
def view : DaemonRequest → DaemonView
  | .shutDown true => .engaged none
  | _ => .outside

theorem stage_view (r : DaemonRequest) :
    r.view.stage = if r = .shutDown true then .engaged else .outside := by
  cases r with
  | shutDown asDaemon => cases asDaemon <;> rfl
  | _ => rfl

theorem eq_shutDown_of_view {r : DaemonRequest} (h : r.view.stage = .engaged) :
    r = .shutDown true := by
  by_contra hne
  simp [stage_view, hne] at h

/-- What a request has come to when it returns. -/
def Fits (r : DaemonRequest) (daemon : Daemon) (v : DaemonView) (τ : Scheduler)
    (result : Except ScheduleError Unit) : Prop :=
  τ.daemon = daemon ∧ (r = .start true → result = .ok () → v = .recorded)

theorem keeps_work (r : DaemonRequest) {σ : Scheduler} {daemon : Daemon} (process : Nat)
    (hdaemon : σ.daemon = daemon) :
    Scheduling.Keeps (DaemonView.contract daemon process) (r.Fits daemon) r.view σ r.work.run := by
  cases r with
  | start asDaemon =>
    refine CheckedScheduling.keeps_bind (DaemonView.keeps_start asDaemon hdaemon ?_)
    intro w tasks r hr
    cases r with
    | error e => exact ⟨hdaemon, fun _ h => by cases h⟩
    | ok report =>
      refine ⟨hdaemon, fun hstart _ => hr report rfl ?_⟩
      simpa using hstart
  | reload =>
    refine CheckedScheduling.keeps_bind (DaemonView.keeps_reload fun w tasks r _ => ?_)
    cases r <;> exact ⟨hdaemon, fun h => by cases h⟩
  | shutDown asDaemon =>
    refine DaemonView.keeps_shutDown asDaemon hdaemon ?_ ?_
    · rintro rfl
      rfl
    · exact fun w τ r hτ => ⟨hτ, fun h => by cases h⟩
  | stop =>
    subst hdaemon
    refine CheckedScheduling.keeps_bind (CheckedScheduling.keeps_bind
      (CheckedScheduling.keeps_get.mpr ?_))
    refine CheckedScheduling.keeps_procedure.mpr (DaemonView.keeps_stop _ fun w r => ?_)
    cases r <;> exact ⟨rfl, fun h => by cases h⟩
  | status =>
    subst hdaemon
    refine CheckedScheduling.keeps_bind (CheckedScheduling.keeps_get.mpr ?_)
    refine CheckedScheduling.keeps_bind ?_
    refine CheckedScheduling.keeps_procedure.mpr (DaemonView.keeps_status fun w r => ?_)
    cases r <;> exact ⟨rfl, fun h => by cases h⟩

end DaemonRequest

namespace DaemonWorld

/-! ### What holds all the time -/

/-- A process that lives and serves, or has recorded itself in a start that goes on. -/
def IsOwner (w : DaemonWorld) (pid : Nat) : Prop := w.machine.lives pid = true ∧
  ((w.process pid).serves = true ∨ (w.process pid).stage = .recorded)

/-- What is known is so: no other process than the suspect is an owner. -/
def Covers (w : DaemonWorld) (v : DaemonView) : Prop := ∀ pid, w.IsOwner pid → v.Suspects pid

/-- What holds of a process: either it does nothing, or what it knows is so, and it goes on as it
may. -/
inductive IsSound (w : DaemonWorld) (daemon : Daemon) (pid : Nat) : Prop
  | idle (htask : (w.process pid).task = none) (hstage : (w.process pid).stage = .outside)
  | busy {r : DaemonRequest} {rest : DaemonRequest.Rest} {v : DaemonView}
    (htask : (w.process pid).task = some (r, rest)) (hstage : v.stage = (w.process pid).stage)
    (hcovers : w.Covers v)
    (hkeeps : Program.Keeps (DaemonView.contract daemon pid) (fun v e => r.Fits daemon v e.2 e.1) v
      rest)

structure Invariant (w : DaemonWorld) (daemon : Daemon) : Prop where
  named : ∀ pid, w.IsOwner pid → w.machine.Names daemon pid
  bounded : ∀ pid, w.machine.lives pid = true → pid ≤ Machine.greatestPid
  scheduler : ∀ pid, (w.process pid).scheduler.daemon = daemon
  sound : ∀ pid, w.machine.lives pid = true → w.IsSound daemon pid

theorem invariant_begun (m : Machine) (daemon : Daemon) : (begun m daemon).Invariant daemon where
  named pid hp := by cases hp.1
  bounded pid hp := by cases hp
  scheduler pid := rfl
  sound pid hp := by cases hp

variable {u w : DaemonWorld} {daemon : Daemon} {pid other : Nat}

theorem Invariant.owner_unique (h : w.Invariant daemon) (hpid : w.IsOwner pid)
    (hother : w.IsOwner other) : pid = other := (h.named pid hpid).unique (h.named other hother)

/-! ### Steps -/

theorem Covers.of_owners {v : DaemonView} (h : w.Covers v)
    (howners : ∀ p, u.IsOwner p → w.IsOwner p) : u.Covers v := fun p hp => h p (howners p hp)

theorem covers_of_stage {v : DaemonView} (h : v.stage ≠ .engaged) : w.Covers v :=
  fun p _ => DaemonView.suspects_of_stage h p

theorem IsSound.of_covers (h : w.IsSound daemon pid) (hprocess : u.process pid = w.process pid)
    (hcovers : ∀ v : DaemonView, v.stage = (w.process pid).stage → w.Covers v → u.Covers v) :
    u.IsSound daemon pid := by
  cases h with
  | idle htask hstage => exact .idle (hprocess ▸ htask) (hprocess ▸ hstage)
  | busy htask hstage hknown hkeeps =>
    exact .busy (hprocess ▸ htask) (hprocess ▸ hstage) (hcovers _ hstage hknown) hkeeps

/-- A step that brings no owner, and lets the daemon's file name the one there is. -/
theorem Invariant.step (h : w.Invariant daemon) (howners : ∀ p, u.IsOwner p → w.IsOwner p)
    (hnames : ∀ p, u.IsOwner p → w.machine.Names daemon p → u.machine.Names daemon p)
    (hbounded : ∀ p, u.machine.lives p = true → p ≤ Machine.greatestPid)
    (hscheduler : ∀ p, (u.process p).scheduler.daemon = daemon)
    (hsound : ∀ p, u.machine.lives p = true →
      u.IsSound daemon p ∨ w.machine.lives p = true ∧ u.process p = w.process p) :
    u.Invariant daemon where
  named p hp := hnames p hp (h.named p (howners p hp))
  bounded := hbounded
  scheduler := hscheduler
  sound p hp := by
    rcases hsound p hp with hsound | ⟨hlives, hprocess⟩
    · exact hsound
    · exact (h.sound p hlives).of_covers hprocess fun v _ hcovers => hcovers.of_owners howners

/-- A step of the machine alone, which brings no process to life and leaves the files. -/
theorem Invariant.machine (h : w.Invariant daemon) {m : Machine}
    (hlives : ∀ p, m.lives p = true → w.machine.lives p = true)
    (hfiles : m.files = w.machine.files) (hcurrent : m.current = w.machine.current) :
    ({ w with machine := m } : DaemonWorld).Invariant daemon := by
  refine h.step (fun p hp => ⟨hlives p hp.1, hp.2⟩) ?_ ?_ h.scheduler ?_
  · rintro p hp ⟨text, hread, hnumber⟩
    exact ⟨text, by simpa only [hfiles, hcurrent] using hread, hnumber⟩
  · exact fun p hp => h.bounded p (hlives p hp)
  · exact fun p hp => .inr ⟨hlives p hp, rfl⟩

theorem Invariant.set (h : w.Invariant daemon) {x : DaemonProcess}
    (howner : w.machine.lives pid = true → x.serves = true ∨ x.stage = .recorded → w.IsOwner pid)
    (hscheduler : x.scheduler.daemon = daemon)
    (hsound : w.machine.lives pid = true → (w.set pid x).IsSound daemon pid) :
    (w.set pid x).Invariant daemon := by
  refine h.step (fun p hp => ?_) (fun p hp hnames => hnames) h.bounded (fun p => ?_) fun p hp => ?_
  · by_cases hne : p = pid
    · subst hne
      exact howner hp.1 (by simpa using hp.2)
    · simpa [IsOwner, process_set_of_ne, hne] using hp
  · by_cases hne : p = pid
    · subst hne
      simpa using hscheduler
    · simpa [process_set_of_ne, hne] using h.scheduler p
  · by_cases hne : p = pid
    · subst hne
      exact .inl (hsound hp)
    · exact .inr ⟨hp, by simp [process_set_of_ne, hne]⟩

theorem stage_of_isAlone (h : w.isAlone pid = true) (hlives : w.machine.lives other = true)
    (hne : other ≠ pid) : (w.process other).stage ≠ .engaged := by
  have hother := List.all_eq_true.mp h other (Machine.mem_names_of_lives hlives)
  simpa [hne, hlives] using hother

/-! ### Events -/

theorem Invariant.spawns (h : w.Invariant daemon) {store : ScheduleStore} {entry : ProcessEntry}
    (hstep : w.step? daemon (.spawns pid store entry) = some u) : u.Invariant daemon := by
  simp only [step?] at hstep
  split at hstep
  next => cases hstep
  next hfree =>
    obtain rfl := Option.some.inj hstep
    have hpid : pid ≤ Machine.greatestPid := by
      by_contra hgreater
      simp [Nat.not_le.mp hgreater] at hfree
    have hlives : ∀ p, p ≠ pid → ({ w.machine with
        processes := w.machine.processes.bind pid entry } : Machine).lives p = true →
          w.machine.lives p = true := by
      intro p hne hp
      simpa [Machine.lives, Machine.hasEnded, Bindings.find?_bind_of_ne _ hne.symm] using hp
    refine h.step (fun p hp => ?_) (fun p hp hnames => hnames) (fun p hp => ?_) (fun p => ?_)
      fun p hp => ?_
    · by_cases hne : p = pid
      · subst hne
        simp [IsOwner, DaemonProcess.fresh] at hp
      · exact ⟨hlives p hne hp.1, by simpa [process_set_of_ne, hne] using hp.2⟩
    · by_cases hne : p = pid
      · exact hne ▸ hpid
      · exact h.bounded p (hlives p hne hp)
    · by_cases hne : p = pid
      · subst hne
        simp [DaemonProcess.fresh, Scheduler.create]
      · simpa [process_set_of_ne, hne] using h.scheduler p
    · by_cases hne : p = pid
      · subst hne
        exact .inl (.idle (by simp [DaemonProcess.fresh]) (by simp [DaemonProcess.fresh]))
      · exact .inr ⟨hlives p hne hp, by simp [process_set_of_ne, hne]⟩

/-- The only owner there may be begins to shut down, and there is none from then on. -/
theorem Invariant.begins (h : w.Invariant daemon) {r : DaemonRequest}
    (horderly : isOrderly daemon w (.begins pid r) = true)
    (hstep : w.step? daemon (.begins pid r) = some u) : u.Invariant daemon := by
  simp only [step?] at hstep
  split at hstep
  next hfree =>
    obtain rfl := Option.some.inj hstep
    refine h.set (fun hlives howner => ⟨hlives, .inl ?_⟩) (h.scheduler pid) fun hlives => ?_
    · rcases howner with hserves | hrecorded
      · exact (Bool.and_eq_true_iff.mp hserves).1
      · by_cases hr : r = .shutDown true <;> simp [DaemonProcess.beginning, hr] at hrecorded
    · refine .busy (by simp [DaemonProcess.beginning]) ?_ ?_ (r.keeps_work pid (h.scheduler pid))
      · simp [DaemonProcess.beginning, DaemonRequest.stage_view]
      · by_cases hview : r.view.stage = .engaged
        · obtain rfl := DaemonRequest.eq_shutDown_of_view hview
          have hserves : w.IsOwner pid := ⟨hlives, .inl horderly⟩
          intro p hp
          by_cases hne : p = pid
          · subst hne
            simp [IsOwner, DaemonProcess.beginning, DaemonRequest.isShutDown] at hp
          · have howner : w.IsOwner p := by simpa [IsOwner, process_set_of_ne, hne] using hp
            exact absurd (h.owner_unique howner hserves) hne
        · exact covers_of_stage hview
  next => cases hstep

theorem Invariant.sound_of_task (h : w.Invariant daemon) (hlives : w.machine.lives pid = true)
    {r : DaemonRequest} {rest : DaemonRequest.Rest}
    (htask : (w.process pid).task = some (r, rest)) :
    ∃ v : DaemonView, v.stage = (w.process pid).stage ∧ w.Covers v ∧
      Program.Keeps (DaemonView.contract daemon pid) (fun v e => r.Fits daemon v e.2 e.1) v rest := by
  cases h.sound pid hlives with
  | idle hidle hstage => cases htask.symm.trans hidle
  | busy hbusy hstage hcovers hkeeps =>
    obtain ⟨rfl, rfl⟩ := Prod.mk.inj (Option.some.inj (hbusy.symm.trans htask))
    exact ⟨_, hstage, hcovers, hkeeps⟩

theorem Invariant.returns (h : w.Invariant daemon) (hlives : w.machine.lives pid = true)
    {r : DaemonRequest} {result : Except ScheduleError Unit} {σ : Scheduler}
    (htask : (w.process pid).task = some (r, .done (result, σ))) :
    (w.set pid ((w.process pid).returning r result σ)).Invariant daemon := by
  obtain ⟨v, hstage, hcovers, hdaemon, hrecorded⟩ := h.sound_of_task hlives htask
  refine h.set (fun _ howner => ⟨hlives, ?_⟩) hdaemon fun _ => .idle ?_ ?_
  · simp only [DaemonProcess.returning, reduceCtorEq, or_false, Bool.or_eq_true, Bool.and_eq_true,
      beq_iff_eq] at howner
    rcases howner with hserves | ⟨hr, hok⟩
    · exact .inl hserves
    · cases result with
      | error e => cases hok
      | ok a => exact .inr (hstage ▸ hrecorded hr rfl ▸ rfl)
  · simp [DaemonProcess.returning]
  · simp [DaemonProcess.returning]

def called (w : DaemonWorld) (daemon : Daemon) (pid : Nat) (r : DaemonRequest) (c : SystemCall)
    (next : c.Reply → DaemonRequest.Rest) : DaemonWorld :=
  let (reply, machine) := { w.machine with self := pid }.reply c
  let x := w.process pid
  { w.set pid { x with
      task := some (r, next reply), stage := x.stage.after daemon (.system c) reply } with machine }

@[simp] theorem process_called_self {r : DaemonRequest} {c : SystemCall}
    {next : c.Reply → DaemonRequest.Rest} : (w.called daemon pid r c next).process pid =
      { w.process pid with
        task := some (r, next ({ w.machine with self := pid }.reply c).1)
        stage := (w.process pid).stage.after daemon (.system c)
          ({ w.machine with self := pid }.reply c).1 } := Function.update_self ..

theorem process_called_of_ne {r : DaemonRequest} {c : SystemCall}
    {next : c.Reply → DaemonRequest.Rest} (h : other ≠ pid) :
    (w.called daemon pid r c next).process other = w.process other := Function.update_of_ne h ..

section Calls

variable {r : DaemonRequest} {v : DaemonView} {c : SystemCall}
  {next : c.Reply → DaemonRequest.Rest}

theorem lives_of_called (h : (w.called daemon pid r c next).machine.lives other = true) :
    w.machine.lives other = true :=
  Machine.lives_of_reply (m := { w.machine with self := pid }) h

theorem Invariant.scheduler_called (h : w.Invariant daemon) (other : Nat) :
    ((w.called daemon pid r c next).process other).scheduler.daemon = daemon := by
  by_cases hne : other = pid
  · subst hne
    rw [process_called_self]
    exact h.scheduler other
  · rw [process_called_of_ne hne]
    exact h.scheduler other

theorem isOwner_of_called (hne : other ≠ pid) (h : (w.called daemon pid r c next).IsOwner other) :
    w.IsOwner other :=
  ⟨lives_of_called h.1, by simpa only [process_called_of_ne hne] using h.2⟩

theorem isSound_called (hstage : v.stage = (w.process pid).stage)
    (hkeeps : Program.Keeps (DaemonView.contract daemon pid) (fun v e => r.Fits daemon v e.2 e.1) v
      (.perform (.system c) next))
    (hcovers : (w.called daemon pid r c next).Covers
      (v.after daemon (.system c) ({ w.machine with self := pid }.reply c).1)) :
    (w.called daemon pid r c next).IsSound daemon pid := by
  refine .busy (by rw [process_called_self]) ?_ hcovers (hkeeps.2 _ _ ⟨?_, rfl⟩)
  · rw [process_called_self, DaemonView.stage_after, hstage]
  · cases c <;> trivial

variable {paths : StatePaths}

/-- A process records itself while no other one may act on what it saw. No other one was an owner. -/
theorem Invariant.records (h : w.Invariant paths.daemonFiles) (hlives : w.machine.lives pid = true)
    (hstage : v.stage = (w.process pid).stage) (hcovers : w.Covers v)
    (hkeeps : Program.Keeps (DaemonView.contract paths.daemonFiles pid)
      (fun v e => r.Fits paths.daemonFiles v e.2 e.1) v (.perform (.system c) next))
    (halone : (∃ content, c = .write paths.daemonFiles.pidFile content) → w.isAlone pid = true)
    (hrecords : v.stage.after paths.daemonFiles (.system c)
      ({ w.machine with self := pid }.reply c).1 = .recorded)
    (hnew : v.stage ≠ .recorded) :
    (w.called paths.daemonFiles pid r c next).Invariant paths.daemonFiles := by
  obtain ⟨hwrites, hview, hnames⟩ :=
    Machine.names_of_recorded (h.bounded pid hlives) hkeeps.1 hrecords hnew
  have howner : ∀ p, (w.called paths.daemonFiles pid r c next).IsOwner p → p = pid := by
    intro p hp
    by_contra hne
    have hsuspects := hcovers p (isOwner_of_called hne hp)
    rcases hview with rfl | rfl
    · cases hsuspects none rfl
    · exact hne (Option.some.inj (hsuspects (some pid) rfl)).symm
  have hnamed : ∀ p, (w.called paths.daemonFiles pid r c next).IsOwner p →
      (w.called paths.daemonFiles pid r c next).machine.Names paths.daemonFiles p := by
    intro p hp
    obtain rfl := howner p hp
    exact hnames
  refine ⟨hnamed, fun p hp => h.bounded p (lives_of_called hp), h.scheduler_called, fun p hp => ?_⟩
  by_cases hne : p = pid
  · subst hne
    refine isSound_called hstage hkeeps (covers_of_stage ?_)
    simp [DaemonView.stage_after, hrecords]
  · have hother := stage_of_isAlone (halone hwrites) (lives_of_called hp) hne
    exact (h.sound p (lives_of_called hp)).of_covers (process_called_of_ne hne)
      fun v hstage _ => covers_of_stage (hstage ▸ hother)

theorem Invariant.calls (h : w.Invariant paths.daemonFiles) (hlives : w.machine.lives pid = true)
    (hstage : v.stage = (w.process pid).stage) (hcovers : w.Covers v)
    (hkeeps : Program.Keeps (DaemonView.contract paths.daemonFiles pid)
      (fun v e => r.Fits paths.daemonFiles v e.2 e.1) v (.perform (.system c) next))
    (hold : v.stage.after paths.daemonFiles (.system c)
      ({ w.machine with self := pid }.reply c).1 = .recorded → v.stage = .recorded) :
    (w.called paths.daemonFiles pid r c next).Invariant paths.daemonFiles := by
  have howners : ∀ p, (w.called paths.daemonFiles pid r c next).IsOwner p → w.IsOwner p := by
    intro p hp
    by_cases hne : p = pid
    · subst hne
      obtain ⟨-, howner⟩ := hp
      rw [process_called_self, ← hstage] at howner
      exact ⟨hlives, howner.imp_right fun hrecorded => hstage ▸ hold hrecorded⟩
    · exact isOwner_of_called hne hp
  refine h.step howners (fun p hp hnames => ?_) (fun p hp => h.bounded p (lives_of_called hp))
    h.scheduler_called fun p hp => ?_
  · have hdaemon : v ≠ .engaged none := by
      rintro rfl
      cases hcovers p (howners p hp) none rfl
    exact Machine.Names.reply (m := { w.machine with self := pid }) hkeeps.1 hold hdaemon hnames
  · by_cases hne : p = pid
    · subst hne
      refine .inl (isSound_called hstage hkeeps fun q hq => ?_)
      have howner := howners q hq
      exact Machine.suspects_of_reply (hcovers q howner) (h.named q howner) (h.bounded q howner.1)
        hq.1
    · exact .inr ⟨lives_of_called hp, process_called_of_ne hne⟩

theorem Invariant.shows (h : w.Invariant daemon) (hlives : w.machine.lives pid = true)
    {n : SchedulerNotice} {next : Unit → DaemonRequest.Rest}
    (htask : (w.process pid).task = some (r, .perform (.notice n) next)) :
    (w.set pid { w.process pid with task := some (r, next ()) }).Invariant daemon := by
  obtain ⟨v, hstage, hcovers, -, hnext⟩ := h.sound_of_task hlives htask
  have howners : ∀ p, (w.set pid { w.process pid with task := some (r, next ()) }).IsOwner p →
      w.IsOwner p := by
    intro p hp
    by_cases hne : p = pid
    · subst hne
      simpa [IsOwner] using hp
    · simpa [IsOwner, process_set_of_ne, hne] using hp
  refine h.set (fun _ howner => ⟨hlives, howner⟩) (h.scheduler pid) fun _ => ?_
  refine .busy (by simp) ?_ (hcovers.of_owners howners) (hnext () v ⟨trivial, rfl⟩)
  simpa using hstage

theorem Invariant.goes (h : w.Invariant paths.daemonFiles)
    (horderly : isOrderly paths.daemonFiles w (.goes pid) = true)
    (hstep : w.step? paths.daemonFiles (.goes pid) = some u) : u.Invariant paths.daemonFiles := by
  simp only [step?] at hstep
  split at hstep
  next hlives =>
    cases htask : (w.process pid).task with
    | none => simp [go?, htask] at hstep
    | some task =>
      obtain ⟨r, rest⟩ := task
      cases rest with
      | halted why => simp [go?, htask] at hstep
      | done result =>
        simp only [go?, htask] at hstep
        obtain rfl := Option.some.inj hstep
        exact h.returns hlives htask
      | perform c next =>
        simp only [go?, htask] at hstep
        cases c with
        | execute isSilent workflow given => simp [answer?] at hstep
        | notice n =>
          obtain rfl := Option.some.inj hstep
          exact h.shows hlives htask
        | system c =>
          obtain rfl := Option.some.inj hstep
          obtain ⟨v, hstage, hcovers, hkeeps⟩ := h.sound_of_task hlives htask
          have halone : (∃ content, c = .write paths.daemonFiles.pidFile content) →
              w.isAlone pid = true := by
            rintro ⟨content, rfl⟩
            simpa [isOrderly, DaemonProcess.isRecording, htask] using horderly
          by_cases hrecords : v.stage.after paths.daemonFiles (.system c)
              ({ w.machine with self := pid }.reply c).1 = .recorded
          · by_cases hold : v.stage = .recorded
            · exact h.calls hlives hstage hcovers hkeeps fun _ => hold
            · exact h.records hlives hstage hcovers hkeeps halone hrecords hold
          · exact h.calls hlives hstage hcovers hkeeps fun hafter => absurd hafter hrecords
  next => cases hstep

end Calls

/-! ### Runs -/

variable {paths : StatePaths}

/-- What holds all the time is kept by every event, if the processes keep out of each other's way. -/
theorem Invariant.step? (h : w.Invariant paths.daemonFiles) {e : DaemonEvent}
    (horderly : isOrderly paths.daemonFiles w e = true)
    (hstep : w.step? paths.daemonFiles e = some u) : u.Invariant paths.daemonFiles := by
  cases e with
  | spawns pid store entry => exact h.spawns hstep
  | begins pid r => exact h.begins horderly hstep
  | goes pid => exact h.goes horderly hstep
  | ends pid =>
    obtain rfl := Option.some.inj hstep
    exact h.machine (fun p hp => (Machine.lives_of_signal hp).1) (Machine.files_signal _ _ _)
      (Machine.current_reply (.signal pid .forced))
  | reaps pid =>
    obtain rfl := Option.some.inj hstep
    exact h.machine (fun p => Machine.lives_of_reap) (Machine.files_reap _ _)
      (Machine.current_reply (.hasExited pid))
  | passes d =>
    obtain rfl := Option.some.inj hstep
    exact h.machine (fun p => Machine.lives_of_later) rfl rfl

theorem Invariant.run (h : w.Invariant paths.daemonFiles) {events : List DaemonEvent}
    (hrun : w.run paths.daemonFiles (isOrderly paths.daemonFiles) events = some u) :
    u.Invariant paths.daemonFiles := by
  induction events generalizing w with
  | nil => exact Option.some.inj hrun ▸ h
  | cons e rest ih =>
    simp only [DaemonWorld.run] at hrun
    split at hrun
    next horderly =>
      obtain ⟨v, hstep, hrest⟩ := Option.bind_eq_some_iff.mp hrun
      exact ih (h.step? horderly hstep) hrest
    next => cases hrun

/-- A process begins a request and goes on with it a number of times. -/
def works (pid : Nat) (r : DaemonRequest) (calls : Nat) : List DaemonEvent :=
  .begins pid r :: List.replicate calls (.goes pid)

/-- Two processes work with the same files, of which there are none yet. -/
def runTwo (isAllowed : Daemon → DaemonWorld → DaemonEvent → Bool) (events : List DaemonEvent) :
    Option DaemonWorld :=
  let paths := StatePaths.beneath "/"
  let spawned := [5, 6].map fun pid => DaemonEvent.spawns pid ⟨paths.schedules⟩ ⟨none, true⟩
  (begun ⟨.empty, "/", ⟨0, 0⟩, 7, [], 0⟩ paths.daemonFiles).run paths.daemonFiles
    (isAllowed paths.daemonFiles) (spawned ++ events)

/-- Of processes that keep out of each other's way one serves at most, and while it lives the
daemon's file names it. -/
theorem one_daemon {m : Machine} {events : List DaemonEvent} {w : DaemonWorld}
    (hrun : (begun m paths.daemonFiles).run paths.daemonFiles (isOrderly paths.daemonFiles) events =
      some w) :
    (∀ pid, w.isServing pid = true → w.machine.Names paths.daemonFiles pid) ∧
      ∀ pid other, w.isServing pid = true → w.isServing other = true → pid = other := by
  have hinvariant := (invariant_begun m paths.daemonFiles).run hrun
  have howner : ∀ pid, w.isServing pid = true → w.IsOwner pid := fun pid hpid =>
    (Bool.and_eq_true_iff.mp hpid).imp_right .inl
  exact ⟨fun pid hpid => hinvariant.named pid (howner pid hpid),
    fun pid other hpid hother => hinvariant.owner_unique (howner pid hpid) (howner other hother)⟩

/-- The second process is refused while the first one serves, and serves once that has shut down. -/
theorem one_daemon_after_the_other : ∃ w, runTwo isOrderly (works 5 (.start true) 12 ++
      works 6 (.start true) 4 ++ works 5 (.shutDown true) 4 ++ works 6 (.start true) 12) = some w ∧
    w.isServing 6 = true ∧ w.machine.Names (StatePaths.beneath "/").daemonFiles 6 ∧
      ∀ other, w.isServing other = true → other = 6 := by
  have hexists : ∃ w ∈ runTwo isOrderly (works 5 (.start true) 12 ++ works 6 (.start true) 4 ++
      works 5 (.shutDown true) 4 ++ works 6 (.start true) 12), w.isServing 6 = true := by
    decide +kernel
  obtain ⟨w, hrun, hserves⟩ := hexists
  obtain ⟨hnames, hunique⟩ := one_daemon hrun
  exact ⟨w, hrun, hserves, hnames 6 hserves, fun other hother => hunique other 6 hother hserves⟩

/-- Where they get in each other's way, both look for a daemon before one of them records itself, and
both serve; and a process that was refused takes the file of the one that serves when it shuts
down. -/
theorem daemons_out_of_order :
    (∃ w ∈ runTwo (fun _ _ _ => true) (works 5 (.start true) 2 ++ works 6 (.start true) 12 ++
      List.replicate 10 (.goes 5)), w.isServing 5 = true ∧ w.isServing 6 = true) ∧
    ∃ w ∈ runTwo (fun _ _ _ => true) (works 5 (.start true) 12 ++ works 6 (.start true) 4 ++
      works 6 (.shutDown true) 4), w.isServing 5 = true ∧
        ¬ w.machine.Names (StatePaths.beneath "/").daemonFiles 5 := by
  refine ⟨by decide +kernel, ?_⟩
  have hexists : ∃ w ∈ runTwo (fun _ _ _ => true) (works 5 (.start true) 12 ++
      works 6 (.start true) 4 ++ works 6 (.shutDown true) 4), w.isServing 5 = true ∧
        w.machine.files.read w.machine.current (StatePaths.beneath "/").daemonFiles.pidFile =
          .error .notFound := by
    decide +kernel
  obtain ⟨w, hrun, hserves, hmissing⟩ := hexists
  refine ⟨w, hrun, hserves, ?_⟩
  rintro ⟨text, hread, -⟩
  cases hmissing.symm.trans hread

end DaemonWorld

end Runbook
