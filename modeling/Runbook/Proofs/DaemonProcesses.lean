import Mathlib.Logic.Function.Basic
import Runbook.System.Machine
import Runbook.Proofs.DaemonView
import Runbook.Proofs.DecimalText

/-!
Processes that start, shut down, stop and look for one daemon on a machine that they share. A
process goes on by one call at a time, and it may end at any moment; its number may be given to a
new process once it is gone. Main statements: no call brings a process to life, and a process that
lives and is named by the daemon's file may be the daemon for all that is known after a call.
-/

namespace Runbook

theorem Daemon.readPid?_toString {pid : Nat} (h : pid ≤ Machine.greatestPid) :
    readPid? (toString pid) = some pid := by
  have hdigits : (toString pid).toList = Nat.toDigits 10 pid := by
    simp [Nat.repr_eq_ofList_toDigits]
  have hbound : pid < pidBound := lt_of_le_of_lt h (by decide)
  rw [readPid?, hdigits, Text.trim_of_isDigit fun c => isDigit_of_mem_toDigits]
  exact Numeral.natural?_toDigits hbound

/-! ### Life -/

namespace Timestamp

theorem isBefore_later {t other : Timestamp} (d : Duration) (h : t.isBefore other = false) :
    (t.later d).isBefore other = false := by
  have hwhole := Nat.div_add_mod (t.nanosecond + d.nanoseconds) Duration.second
  have hseconds : (t.later d).seconds =
      t.seconds + ((t.nanosecond + d.nanoseconds) / Duration.second : Nat) := rfl
  have hnanosecond : (t.later d).nanosecond =
      (t.nanosecond + d.nanoseconds) % Duration.second := rfl
  simp only [isBefore, Bool.or_eq_false_iff, Bool.and_eq_false_iff, beq_eq_false_iff_ne,
    decide_eq_false_iff_not] at h ⊢
  rw [hseconds, hnanosecond]
  generalize (t.nanosecond + d.nanoseconds) / Duration.second = carry at hwhole ⊢
  cases carry with
  | zero => omega
  | succ carry => omega

end Timestamp

namespace Machine

variable {m : Machine} {pid other : Nat}

/-- Whether a process has the number and has not ended. -/
def lives (m : Machine) (pid : Nat) : Bool :=
  match m.processes.find? pid with
  | some p => !m.hasEnded p
  | none => false

theorem mem_names_of_lives (h : m.lives pid = true) : pid ∈ m.processes.names := by
  unfold lives at h
  cases hfind : m.processes.find? pid with
  | none => simp [hfind] at h
  | some p => exact List.mem_map_of_mem (Bindings.mem_of_find? hfind)

theorem isAlive_of_lives (h : m.lives pid = true) (hpid : pid ≤ greatestPid) :
    m.isAlive pid = true := by
  unfold lives at h
  cases hfind : m.processes.find? pid with
  | none => simp [hfind] at h
  | some p => simp [isAlive, hpid, Bindings.isBound, hfind]

/-- No signal brings a process to life, and one that cannot be refused ends it. -/
theorem lives_of_signal {t : Termination} (h : (m.signal other t).lives pid = true) :
    m.lives pid = true ∧ (t = .forced → pid ≠ other) := by
  unfold signal at h
  cases hfind : m.processes.find? other with
  | none =>
    rw [hfind] at h
    refine ⟨h, ?_⟩
    rintro - rfl
    simp [lives, hfind] at h
  | some p =>
    simp only [hfind] at h
    split at h
    next hstays =>
      refine ⟨h, ?_⟩
      rintro rfl rfl
      simp [lives, hfind, show m.hasEnded p = true by simpa using hstays] at h
    next hends =>
      have hne : pid ≠ other := by
        rintro rfl
        simp [lives, Bindings.find?_bind_self, hasEnded, Timestamp.isBefore] at h
      refine ⟨?_, fun _ => hne⟩
      simpa [lives, Bindings.find?_bind_of_ne _ hne.symm, hasEnded] using h

theorem lives_of_reap (h : (m.reap other).2.lives pid = true) : m.lives pid = true := by
  unfold reap at h
  cases hfind : m.processes.find? other with
  | none => simpa [hfind] using h
  | some p =>
    simp only [hfind] at h
    split at h
    next hended =>
      by_cases hne : pid = other
      · subst hne
        have hgone : Bindings.find? (m.processes.filter fun e => e.1 != pid) pid = none :=
          Bindings.find?_filter_eq_none fun a => by simp
        simp [lives, hgone] at h
      · have hsame : Bindings.find? (m.processes.filter fun e => e.1 != other) pid =
            m.processes.find? pid := Bindings.find?_filter fun a => by simp [hne]
        simpa [lives, hsame, hasEnded] using h
    next => exact h

theorem lives_of_later {d : Duration}
    (h : ({ m with time := m.time.later d } : Machine).lives pid = true) :
    m.lives pid = true := by
  unfold lives at h ⊢
  cases hfind : m.processes.find? pid with
  | none => simp [hfind] at h
  | some p =>
    simp only [hfind, hasEnded] at h ⊢
    cases hends : p.endsAt with
    | none => rfl
    | some time =>
      simp only [hends, Bool.not_not] at h ⊢
      by_contra hover
      rw [Timestamp.isBefore_later d (by simpa using hover)] at h
      cases h

theorem lives_changed (change : Except SystemError FileTree) (pid : Nat) :
    (m.changed change).2.lives pid = m.lives pid := by
  cases change <;> rfl

theorem lives_of_reply {c : SystemCall} (h : (m.reply c).2.lives pid = true) :
    m.lives pid = true := by
  cases c with
  | write path text => simpa only [reply, lives_changed] using h
  | append path text => simpa only [reply, lives_changed] using h
  | remove path => simpa only [reply, lives_changed] using h
  | rename source target => simpa only [reply, lives_changed] using h
  | makeDirectories path => simpa only [reply, lives_changed] using h
  | removeDirectory path => simpa only [reply, lives_changed] using h
  | signal other t => exact (lives_of_signal h).1
  | hasExited other => exact lives_of_reap h
  | sleep d => exact lives_of_later h
  | _ => exact h

theorem current_changed (change : Except SystemError FileTree) :
    (m.changed change).2.current = m.current := by
  cases change <;> rfl

theorem current_reply (c : SystemCall) : (m.reply c).2.current = m.current := by
  cases c with
  | write path text => simp only [reply, current_changed]
  | append path text => simp only [reply, current_changed]
  | remove path => simp only [reply, current_changed]
  | rename source target => simp only [reply, current_changed]
  | makeDirectories path => simp only [reply, current_changed]
  | removeDirectory path => simp only [reply, current_changed]
  | signal other t =>
    simp only [reply, signal]
    split
    · split <;> rfl
    · rfl
  | hasExited other =>
    simp only [reply, reap]
    split
    · split <;> rfl
    · rfl
  | _ => rfl

/-! ### The daemon's file -/

def Names (m : Machine) (daemon : Daemon) (pid : Nat) : Prop := ∃ text,
  m.files.read m.current daemon.pidFile = .ok text ∧ Daemon.readPid? text = some pid

theorem Names.unique {daemon : Daemon} (h : m.Names daemon pid) (hother : m.Names daemon other) :
    pid = other := by
  obtain ⟨text, hread, hpid⟩ := h
  obtain ⟨text', hread', hother⟩ := hother
  obtain rfl : text = text' := Except.ok.inj (hread.symm.trans hread')
  exact Option.some.inj (hpid.symm.trans hother)

theorem suspects_of_reply {daemon : Daemon} {v : DaemonView} {c : SystemCall}
    (hsuspects : v.Suspects pid) (hnames : m.Names daemon pid) (hpid : pid ≤ greatestPid)
    (hlives : (m.reply c).2.lives pid = true) :
    (v.after daemon (.system c) (m.reply c).1).Suspects pid := by
  cases c with
  | read path =>
    simp only [DaemonView.after]
    split
    next hread =>
      obtain ⟨rfl, -⟩ := hread
      obtain ⟨text, htext, hnumber⟩ := hnames
      rintro suspect hsuspect
      obtain rfl := DaemonView.engaged.inj hsuspect
      simp only [reply, htext, DaemonView.suspectOf, hnumber]
    next => exact hsuspects
  | write path text =>
    generalize (m.reply (.write path text)).1 = reply
    cases (reply : Except SystemError Unit) with
    | error e => exact hsuspects
    | ok u =>
      simp only [DaemonView.after]
      split
      · exact DaemonView.suspects_of_stage (by simp [DaemonView.stage]) pid
      · exact hsuspects
  | isAlive other =>
    simp only [DaemonView.after]
    split
    next => exact hsuspects
    next hdead =>
      refine hsuspects.without ?_
      rintro rfl
      exact hdead (isAlive_of_lives hlives hpid)
  | signal other t =>
    cases t with
    | graceful => exact hsuspects
    | forced => exact hsuspects.without ((lives_of_signal hlives).2 rfl)
  | _ => exact hsuspects

end Machine

/-! ### Processes -/

inductive DaemonRequest where
  | start (asDaemon : Bool)
  | reload
  | shutDown (asDaemon : Bool)
  | stop
  | status
  deriving DecidableEq, Repr

namespace DaemonRequest

def work : DaemonRequest → CheckedScheduling Unit
  | .start asDaemon => do let _ ← Scheduler.start asDaemon
  | .reload => do let _ ← Scheduler.reload
  | .shutDown asDaemon => Scheduler.shutDown asDaemon
  | .stop => do let _ ← Scheduler.stopDaemon
  | .status => do let _ ← CheckedScheduling.procedure (← get).daemon.status

def isShutDown : DaemonRequest → Bool
  | .shutDown _ => true
  | _ => false

/-- What is left to do of a request. -/
abbrev Rest := Program SchedulerCall.interface (Except ScheduleError Unit × Scheduler)

end DaemonRequest

/-- A process: its scheduler, what it is doing, how far it is with the daemon's file, and whether it
serves as the daemon, which it does from a start that succeeded to the next shutdown. -/
structure DaemonProcess where
  scheduler : Scheduler
  task : Option (DaemonRequest × DaemonRequest.Rest)
  stage : DaemonStage
  serves : Bool

namespace DaemonProcess

def fresh (store : ScheduleStore) (daemon : Daemon) : DaemonProcess :=
  ⟨.create store daemon, none, .outside, false⟩

/-- A process may act on the daemon's file from the beginning of its shutdown. -/
def beginning (x : DaemonProcess) (r : DaemonRequest) : DaemonProcess where
  scheduler := x.scheduler
  task := some (r, r.work.run.run x.scheduler)
  stage := if r = .shutDown true then .engaged else .outside
  serves := x.serves && !r.isShutDown

def returning (x : DaemonProcess) (r : DaemonRequest) (result : Except ScheduleError Unit)
    (scheduler : Scheduler) : DaemonProcess where
  scheduler
  task := none
  stage := .outside
  serves := x.serves || (r == .start true && result.isOk)

/-- Whether the next call is one that writes the daemon's file. -/
def isRecording (x : DaemonProcess) (daemon : Daemon) : Bool :=
  match x.task with
  | some (_, .perform (.system (.write path _)) _) => path == daemon.pidFile
  | _ => false

end DaemonProcess

structure DaemonWorld where
  machine : Machine
  process : Nat → DaemonProcess

/-- What may happen: a process comes to be, begins a request, makes its next call or returns, ends,
or is taken out of the table; or time passes. -/
inductive DaemonEvent where
  | spawns (pid : Nat) (store : ScheduleStore) (entry : ProcessEntry)
  | begins (pid : Nat) (r : DaemonRequest)
  | goes (pid : Nat)
  | ends (pid : Nat)
  | reaps (pid : Nat)
  | passes (duration : Duration)

namespace DaemonWorld

def begun (m : Machine) (daemon : Daemon) : DaemonWorld :=
  ⟨{ m with processes := [] }, fun _ => .fresh ⟨""⟩ daemon⟩

def set (w : DaemonWorld) (pid : Nat) (x : DaemonProcess) : DaemonWorld :=
  { w with process := Function.update w.process pid x }

@[simp] theorem machine_set (w : DaemonWorld) (pid : Nat) (x : DaemonProcess) :
    (w.set pid x).machine = w.machine := rfl

@[simp] theorem process_set_self (w : DaemonWorld) (pid : Nat) (x : DaemonProcess) :
    (w.set pid x).process pid = x := Function.update_self ..

theorem process_set_of_ne (w : DaemonWorld) {pid other : Nat} (h : other ≠ pid)
    (x : DaemonProcess) : (w.set pid x).process other = w.process other := Function.update_of_ne h ..

/-- What the machine answers a process. Runs of workflows are not part of any request. -/
def answer? (m : Machine) (pid : Nat) : (c : SchedulerCall) → Option (c.Reply × Machine)
  | .system c => some ({ m with self := pid }.reply c)
  | .notice _ => some ((), m)
  | .execute .. => none

/-- The next call of a process, or its return. -/
def go? (w : DaemonWorld) (daemon : Daemon) (pid : Nat) : Option DaemonWorld :=
  let x := w.process pid
  match x.task with
  | none => none
  | some (_, .halted _) => none
  | some (r, .done (result, scheduler)) => some (w.set pid (x.returning r result scheduler))
  | some (r, .perform c next) =>
    (answer? w.machine pid c).map fun (reply, machine) =>
      { w.set pid { x with task := some (r, next reply), stage := x.stage.after daemon c reply } with
        machine }

def step? (w : DaemonWorld) (daemon : Daemon) : DaemonEvent → Option DaemonWorld
  | .spawns pid store entry =>
    if w.machine.processes.isBound pid || pid == 0 || Machine.greatestPid < pid then none
    else some { w.set pid (.fresh store daemon) with
      machine := { w.machine with processes := w.machine.processes.bind pid entry } }
  | .begins pid r =>
    if w.machine.lives pid && (w.process pid).task.isNone then
      some (w.set pid ((w.process pid).beginning r))
    else none
  | .goes pid => if w.machine.lives pid then w.go? daemon pid else none
  | .ends pid => some { w with machine := w.machine.signal pid .forced }
  | .reaps pid => some { w with machine := (w.machine.reap pid).2 }
  | .passes d => some { w with machine := { w.machine with time := w.machine.time.later d } }

/-- Whether no other process that lives may still act on what it saw in the daemon's file. -/
def isAlone (w : DaemonWorld) (pid : Nat) : Bool :=
  w.machine.processes.names.all fun other =>
    other == pid || !w.machine.lives other || (w.process other).stage != .engaged

/-- What processes do that keep out of each other's way: the daemon's file is written while no other
process may act on what it saw there, and only a process that serves shuts down as the daemon. -/
def isOrderly (daemon : Daemon) (w : DaemonWorld) : DaemonEvent → Bool
  | .begins pid (.shutDown true) => (w.process pid).serves
  | .goes pid => !(w.process pid).isRecording daemon || w.isAlone pid
  | _ => true

/-- One event after the other, of those that are allowed. -/
def run (daemon : Daemon) (isAllowed : DaemonWorld → DaemonEvent → Bool) (w : DaemonWorld) :
    List DaemonEvent → Option DaemonWorld
  | [] => some w
  | e :: rest =>
    if isAllowed w e then (w.step? daemon e).bind fun v => run daemon isAllowed v rest else none

/-- A live process that has returned from a start as the daemon and has not begun to shut down. -/
def isServing (w : DaemonWorld) (pid : Nat) : Bool := w.machine.lives pid && (w.process pid).serves

end DaemonWorld

end Runbook
