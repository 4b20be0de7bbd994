import Mathlib.Data.List.Nodup
import Runbook.Proofs.OutcomeAccount

/-!
The course of a run. Around its steps a run looks at the clock, records that it begins and that it
ends, and shows and saves its history. Main statements: a host takes a run to its end just if it
takes its steps to theirs; how the run ends, what it leaves in the workspace and what it asks of its
ports is a matter of the steps; and these fall into the passages of the steps, one after another.
-/

namespace Runbook

open Program (Runs)

namespace Program

variable {I : Interface} {σ α : Type}

/-- A host drives a program with an account of its exchanges as it drives the program alone. -/
theorem drive_traced (h : Host I σ) (s : σ) (p : Program I α) : p.traced.drive h s =
    (p.drive h s).map fun d => ⟨(d.result, d.exchanges), d.state, d.exchanges⟩ := by
  induction p generalizing s with
  | done a => rfl
  | halted why => rfl
  | perform c next ih =>
    have hbind := drive_bind h (h s c).2 (traced (next (h s c).1))
      fun r => .done (r.1, (⟨c, (h s c).1⟩ : Exchange I) :: r.2)
    change ((traced (next (h s c).1) >>= fun r =>
      Program.done (r.1, (⟨c, (h s c).1⟩ : Exchange I) :: r.2)).drive h (h s c).2).map _ = _
    rw [hbind, ih]
    cases hnext : (next (h s c).1).drive h (h s c).2 with
    | none => simp [drive_perform, hnext]
    | some d => simp [hnext, drive, Driven.after]

end Program

def Occurrence.step? : Occurrence → Option Nat
  | .stepSkipped step _ => some step
  | .stepCompleted step .. => some step
  | .stepFailed step .. => some step
  | .stepRetried step .. => some step
  | .fallbackStarted step .. => some step
  | .parallelStarted step _ => some step
  | .parallelFinished step _ => some step
  | _ => none

def Effect.IsFrame : Effect → Prop
  | .record o => o.step? = none
  | .display _ | .save _ | .clock => True
  | _ => False

/-- What is taken of exchanges in the frame of a run is taken of them alone, if the frame has nothing
of the kind. -/
theorem filterMap_framed {α : Type} {front es back : RunTrace}
    (hframe : ∀ e ∈ front ++ back, e.call.IsFrame) (f : Exchange Effect.interface → Option α)
    (hf : ∀ e : Exchange Effect.interface, e.call.IsFrame → f e = none) :
    (front ++ (es ++ back)).filterMap f = es.filterMap f := by
  have hfront : front.filterMap f = [] :=
    List.filterMap_eq_nil_iff.mpr fun e he => hf e (hframe e (List.mem_append_left _ he))
  have hback : back.filterMap f = [] :=
    List.filterMap_eq_nil_iff.mpr fun e he => hf e (hframe e (List.mem_append_right _ he))
  rw [List.filterMap_append, List.filterMap_append, hfront, hback, List.nil_append,
    List.append_nil]

namespace Workflow

variable {σ : Type}

/-- The state of a host when the steps of a workflow begin: it has told the time and taken down that
the run begins. -/
def beginning (w : Workflow) (host : RunHost σ) (s : σ) : σ :=
  (host (host s .clock).2 (.record (.runStarted w.name w.steps.length))).2

def course (w : Workflow) (host : RunHost σ) (options : RunOptions) (current : FilePath) (s : σ) :
    Option (RunDriven σ StepEnd) :=
  (Run.takeSteps options.bounds (w.runScope options current) 0
    (Run.initialWorkspace options.given) w.steps).drive host (w.beginning host s)

def firstEvent (w : Workflow) (host : RunHost σ) (s : σ) : Event :=
  let start := (host s .clock).1
  let stamp := (host (host s .clock).2 (.record (.runStarted w.name w.steps.length))).1
  ⟨stamp.id, start.id, stamp.time, .runStarted w.name w.steps.length⟩

def lastEvent (host : RunHost σ) (s : σ) (steps : RunDriven σ StepEnd) : Event :=
  let start := (host s .clock).1
  let stop := (host steps.state .clock).1
  let closing := Run.closing steps.result.failure
    (start.time.durationUntil stop.time).milliseconds
  let stamp := (host (host steps.state .clock).2 (.record closing)).1
  ⟨stamp.id, start.id, stamp.time, closing⟩

def stepEvents (host : RunHost σ) (s : σ) (steps : RunDriven σ StepEnd) : List Event :=
  steps.exchanges.filterMap (Run.event? (host s .clock).1.id)

/-- A run that is over, as its steps decide. -/
structure Concludes (w : Workflow) (host : RunHost σ) (s : σ) (steps : RunDriven σ StepEnd)
    (d : RunDriven σ Run) : Prop where
  failure : d.result.failure = steps.result.failure
  workspace : d.result.workspace = steps.result.workspace
  events : d.result.history.events =
    w.firstEvent host s :: (stepEvents host s steps ++ [lastEvent host s steps])
  exchanges : ∃ front back, d.exchanges = front ++ (steps.exchanges ++ back) ∧
    (∀ e ∈ front ++ back, e.call.IsFrame) ∧
    recorded front = [.runStarted w.name w.steps.length] ∧
    recorded back = [(lastEvent host s steps).occurrence]

end Workflow

namespace Workflow

variable {σ : Type} {w : Workflow} {host : RunHost σ} {options : RunOptions} {current : FilePath}
  {s : σ} {steps : RunDriven σ StepEnd} {d : RunDriven σ Run}

/-- The part of a run between its first look at the clock and its report. -/
def body (w : Workflow) (options : RunOptions) (current : FilePath) (start : Stamp) :
    Task (StepEnd × Stamp) := do
  Task.record (.runStarted w.name w.steps.length)
  let taken ← Run.takeSteps options.bounds (w.runScope options current) 0
    (Run.initialWorkspace options.given) w.steps
  let stop ← Task.clock
  Task.record (Run.closing taken.failure (start.time.durationUntil stop.time).milliseconds)
  return (taken, stop)

def bodyAfter (w : Workflow) (host : RunHost σ) (s : σ) (steps : RunDriven σ StepEnd) :
    RunDriven σ (StepEnd × Stamp) :=
  let begun := Occurrence.runStarted w.name w.steps.length
  let stop := (host steps.state .clock).1
  let ended := (lastEvent host s steps).occurrence
  let closed := host (host steps.state .clock).2 (.record ended)
  ⟨(steps.result, stop), closed.2, [⟨.record begun, (host (host s .clock).2 (.record begun)).1⟩] ++
    (steps.exchanges ++ [⟨.clock, stop⟩, ⟨.record ended, closed.1⟩])⟩

theorem drive_body (w : Workflow) (host : RunHost σ) (options : RunOptions) (current : FilePath)
    (s : σ) : (w.body options current (host s .clock).1).drive host (host s .clock).2 =
      (w.course host options current s).map (w.bodyAfter host s) := by
  have hopening : (Task.record (.runStarted w.name w.steps.length)).drive host (host s .clock).2 =
      some ⟨(), w.beginning host s, [⟨.record (.runStarted w.name w.steps.length),
        (host (host s .clock).2 (.record (.runStarted w.name w.steps.length))).1⟩]⟩ := rfl
  rw [body, Program.drive_bind, hopening, Option.bind_some, Program.drive_bind]
  change Option.map _ ((w.course host options current s).bind _) = _
  cases w.course host options current s with
  | none => rfl
  | some steps => rfl

def historyOf (w : Workflow) (start : Stamp) (exchanges : RunTrace) : History :=
  ⟨start.id, w.name, start.time, exchanges.filterMap (Run.event? start.id)⟩

theorem events_historyOf (w : Workflow) (host : RunHost σ) (s : σ) (steps : RunDriven σ StepEnd) :
    (w.historyOf (host s .clock).1 (w.bodyAfter host s steps).exchanges).events =
      w.firstEvent host s :: (stepEvents host s steps ++ [lastEvent host s steps]) := by
  simp only [historyOf, bodyAfter, stepEvents, List.filterMap_append]
  rfl

/-- The rest of a run after its body: a report of what it came to. -/
def reporting (w : Workflow) (start : Stamp) (r : (StepEnd × Stamp) × RunTrace) : Task Run := do
  let history := w.historyOf start r.2
  let last ← Run.report r.1.1.failure (start.time.durationUntil r.1.2.time) history
  return ⟨start.id, start.time, last.time, r.1.1.failure, r.1.1.workspace, history⟩

theorem exists_reported (w : Workflow) (start : Stamp) (r : (StepEnd × Stamp) × RunTrace)
    (host : RunHost σ) (s : σ) : ∃ d, (w.reporting start r).drive host s = some d ∧
      d.result.failure = r.1.1.failure ∧ d.result.workspace = r.1.1.workspace ∧
      d.result.history = w.historyOf start r.2 ∧
      (∀ e ∈ d.exchanges, e.call.IsFrame) ∧ recorded d.exchanges = [] := by
  obtain ⟨⟨⟨failure, workspace⟩, stop⟩, exchanges⟩ := r
  cases failure with
  | none => exact ⟨_, rfl, rfl, rfl, rfl, by simp [Driven.after, Effect.IsFrame], rfl⟩
  | some message => exact ⟨_, rfl, rfl, rfl, rfl, by simp [Driven.after, Effect.IsFrame], rfl⟩

theorem concludes_of_reported (host : RunHost σ) (s : σ) (steps : RunDriven σ StepEnd)
    {d : RunDriven σ Run} (hfailure : d.result.failure = steps.result.failure)
    (hworkspace : d.result.workspace = steps.result.workspace)
    (hhistory : d.result.history =
      w.historyOf (host s .clock).1 (w.bodyAfter host s steps).exchanges)
    (hframe : ∀ e ∈ d.exchanges, e.call.IsFrame) (hrecorded : recorded d.exchanges = []) :
    w.Concludes host s steps
      ((d.after (w.bodyAfter host s steps).exchanges).after [⟨.clock, (host s .clock).1⟩]) where
  failure := hfailure
  workspace := hworkspace
  events := (congrArg History.events hhistory).trans (w.events_historyOf host s steps)
  exchanges := by
    let begun := Occurrence.runStarted w.name w.steps.length
    let ended := (lastEvent host s steps).occurrence
    have hended : ended.step? = none := by
      change (Run.closing _ _).step? = none
      cases steps.result.failure <;> rfl
    refine ⟨[⟨.clock, (host s .clock).1⟩, ⟨.record begun, (host (host s .clock).2
      (.record begun)).1⟩], [⟨.clock, (host steps.state .clock).1⟩, ⟨.record ended,
      (host (host steps.state .clock).2 (.record ended)).1⟩] ++ d.exchanges, ?_, ?_, rfl, ?_⟩
    · simp [Driven.after, bodyAfter, begun, ended]
    · intro e he
      simp only [List.mem_append, List.mem_cons, List.not_mem_nil, or_false] at he
      rcases he with (rfl | rfl) | (rfl | rfl) | he
      · trivial
      · exact rfl
      · trivial
      · exact hended
      · exact hframe e he
    · rw [recorded_append, hrecorded]
      rfl

/-- A host takes a run to its end just if it takes its steps to theirs. -/
theorem run_eq (w : Workflow) (host : RunHost σ) (options : RunOptions) (current : FilePath)
    (s : σ) : ∃ conclude : RunDriven σ StepEnd → RunDriven σ Run,
      w.run host options current s = (w.course host options current s).map conclude ∧
      ∀ steps, w.Concludes host s steps (conclude steps) := by
  have htask : w.task options current = Task.clock >>= fun start =>
      (w.body options current start).traced >>= w.reporting start := rfl
  have hclock : Task.clock.drive host s =
    some ⟨(host s .clock).1, (host s .clock).2, [⟨.clock, (host s .clock).1⟩]⟩ := rfl
  choose last hlast hfailure hworkspace hhistory hframe hrecorded using fun steps =>
    w.exists_reported (host s .clock).1
      ((w.bodyAfter host s steps).result, (w.bodyAfter host s steps).exchanges)
      host (w.bodyAfter host s steps).state
  refine ⟨fun steps => ((last steps).after (w.bodyAfter host s steps).exchanges).after
    [⟨.clock, (host s .clock).1⟩], ?_, fun steps => concludes_of_reported host s steps
      (hfailure steps) (hworkspace steps) (hhistory steps) (hframe steps) (hrecorded steps)⟩
  rw [run, htask, Program.drive_bind, hclock, Option.bind_some, Program.drive_bind,
    Program.drive_traced, drive_body]
  cases w.course host options current s with
  | none => rfl
  | some steps => simp only [Option.map_some, Option.bind_some, hlast]

theorem Concludes.recorded_eq (h : w.Concludes host s steps d) :
    recorded d.exchanges = d.result.occurrences := by
  obtain ⟨front, back, hexchanges, _, hfront, hback⟩ := h.exchanges
  rw [hexchanges, recorded_append, recorded_append, hfront, hback, Run.occurrences, h.events,
    List.map_cons, List.map_append, stepEvents, Run.occurrence_event?]
  rfl

end Workflow

/-! ### The passages of steps -/

namespace Run

/-- A step as a run came to it: its index, the workspace before it, what it exchanged with the host,
and how it ended. -/
structure Passage where
  index : Nat
  step : Step
  before : Workspace
  exchanges : RunTrace
  stop : StepEnd

/-- The passages of steps in turn, the first with the index given, and how the steps end: each of
them starts in the workspace that the one before left, and only the last may fail. -/
inductive Passes (bounds : RunBounds) (scope : RunScope) :
    Nat → Workspace → List Step → List Passage → StepEnd → Prop where
  | finished {index w} : Passes bounds scope index w [] [] ⟨none, w⟩
  | halted {index w step rest es e} (h : Runs (takeStep bounds scope step index w) es e)
      (hfailure : e.failure.isSome) :
    Passes bounds scope index w (step :: rest) [⟨index, step, w, es, e⟩] e
  | next {index w step rest es e passages last}
      (h : Runs (takeStep bounds scope step index w) es e) (hgoes : e.failure = none)
      (more : Passes bounds scope (index + 1) e.workspace rest passages last) :
    Passes bounds scope index w (step :: rest) (⟨index, step, w, es, e⟩ :: passages) last

variable {bounds : RunBounds} {scope : RunScope} {index : Nat} {w : Workspace} {steps : List Step}
  {passages : List Passage} {last : StepEnd}

theorem exists_passes_of_runs {es : RunTrace}
    (h : Runs (takeSteps bounds scope index w steps) es last) :
    ∃ passages, Passes bounds scope index w steps passages last ∧
      es = passages.flatMap (·.exchanges) := by
  induction steps generalizing index w es with
  | nil =>
    obtain ⟨rfl, rfl⟩ := h
    exact ⟨[], .finished, rfl⟩
  | cons step rest ih =>
    obtain ⟨front, taken, back, rfl, hfront, hback⟩ := Program.runs_bind.mp h
    cases hfailure : taken.failure with
    | some message =>
      simp only [hfailure, Option.isSome_some, if_true] at hback
      obtain ⟨rfl, rfl⟩ := hback
      exact ⟨_, .halted hfront (by simp [hfailure]), by simp⟩
    | none =>
      simp only [hfailure, Option.isSome_none, Bool.false_eq_true, if_false] at hback
      obtain ⟨passages, hpasses, rfl⟩ := ih hback
      exact ⟨_, .next hfront hfailure hpasses, rfl⟩

namespace Passes

theorem runs (h : Passes bounds scope index w steps passages last) {p : Passage}
    (hp : p ∈ passages) :
    Runs (takeStep bounds scope p.step p.index p.before) p.exchanges p.stop := by
  induction h with
  | finished => simp at hp
  | halted hstep _ =>
    obtain rfl := List.mem_singleton.mp hp
    exact hstep
  | next hstep _ _ ih =>
    rcases List.mem_cons.mp hp with rfl | hp
    · exact hstep
    · exact ih hp

theorem indexes_eq (h : Passes bounds scope index w steps passages last) :
    passages.map (·.index) = List.range' index passages.length := by
  induction h with
  | finished => rfl
  | halted _ _ => rfl
  | next _ _ _ ih => simp [List.range'_succ, ih]

theorem steps_eq (h : Passes bounds scope index w steps passages last) :
    passages.map (·.step) = steps.take passages.length := by
  induction h with
  | finished => rfl
  | halted _ _ => rfl
  | next _ _ _ ih => simp [ih]

theorem nodup_indexes (h : Passes bounds scope index w steps passages last) :
    (passages.map (·.index)).Nodup := by
  rw [h.indexes_eq]
  exact List.nodup_range'

theorem flatMap_eq {α : Type} (h : Passes bounds scope index w steps passages last) {p : Passage}
    (hp : p ∈ passages) (f : Passage → List α) (hf : ∀ q ∈ passages, q.index ≠ p.index → f q = []) :
    passages.flatMap f = f p := by
  have hnodup := h.nodup_indexes
  obtain ⟨front, back, rfl⟩ := List.append_of_mem hp
  rw [List.map_append, List.map_cons, List.nodup_middle, List.nodup_cons,
    ← List.map_append] at hnodup
  have hnil : ∀ q ∈ front ++ back, f q = [] := by
    intro q hq
    refine hf q (by simp only [List.mem_append, List.mem_cons] at hq ⊢; tauto) fun heq => ?_
    exact hnodup.1 (heq ▸ List.mem_map_of_mem hq)
  have hfront : front.flatMap f = [] :=
    List.flatMap_eq_nil_iff.mpr fun q hq => hnil q (List.mem_append_left _ hq)
  have hback : back.flatMap f = [] :=
    List.flatMap_eq_nil_iff.mpr fun q hq => hnil q (List.mem_append_right _ hq)
  rw [List.flatMap_append, List.flatMap_cons, hfront, hback, List.nil_append, List.append_nil]

theorem step_mem (h : Passes bounds scope index w steps passages last) {p : Passage}
    (hp : p ∈ passages) : p.step ∈ steps := by
  have hmem : p.step ∈ passages.map (·.step) := List.mem_map_of_mem hp
  rw [h.steps_eq] at hmem
  exact List.mem_of_mem_take hmem

end Passes

end Run

namespace Workflow

variable {σ : Type} {w : Workflow} {host : RunHost σ} {options : RunOptions} {current : FilePath}
  {s : σ}

/-- A run that is over, as its passages make it up. -/
structure Passed (w : Workflow) (options : RunOptions) (current : FilePath)
    (passages : List Run.Passage) (d : RunDriven σ Run) : Prop where
  passes : Run.Passes options.bounds (w.runScope options current) 0
    (Run.initialWorkspace options.given) w.steps passages ⟨d.result.failure, d.result.workspace⟩
  exchanges : ∃ front back, d.exchanges = front ++ (passages.flatMap (·.exchanges) ++ back) ∧
    ∀ e ∈ front ++ back, e.call.IsFrame
  recorded_eq : recorded d.exchanges = d.result.occurrences

/-- Whatever the host replies, a run passes through its steps one after another. -/
theorem exists_passed {d : RunDriven σ Run} (hd : w.run host options current s = some d) :
    ∃ passages, w.Passed options current passages d := by
  obtain ⟨conclude, hrun, hconclude⟩ := w.run_eq host options current s
  obtain ⟨steps, hcourse, rfl⟩ := Option.map_eq_some_iff.mp (hrun.symm.trans hd)
  have hsteps := hconclude steps
  obtain ⟨passages, hpasses, hexchanges⟩ :=
    Run.exists_passes_of_runs (Program.runs_of_drive hcourse)
  obtain ⟨front, back, heq, hframe, _, _⟩ := hsteps.exchanges
  refine ⟨passages, ?_, ⟨front, back, hexchanges ▸ heq, hframe⟩, hsteps.recorded_eq⟩
  rw [hsteps.failure, hsteps.workspace]
  exact hpasses

/-- What is taken of the exchanges of a run is taken of those of its passages, if the frame of a run
has nothing of the kind. -/
theorem Passed.filterMap_eq {α : Type} {passages : List Run.Passage} {d : RunDriven σ Run}
    (h : w.Passed options current passages d) (f : Exchange Effect.interface → Option α)
    (hf : ∀ e : Exchange Effect.interface, e.call.IsFrame → f e = none) :
    d.exchanges.filterMap f = passages.flatMap fun p => p.exchanges.filterMap f := by
  obtain ⟨front, back, hexchanges, hframe⟩ := h.exchanges
  rw [hexchanges, filterMap_framed hframe f hf, List.filterMap_flatMap]

end Workflow

end Runbook
