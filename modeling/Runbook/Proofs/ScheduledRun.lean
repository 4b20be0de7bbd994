import Runbook.Proofs.AddedInTurn
import Runbook.Proofs.StartOutcome

/-!
The run of a schedule, whatever an executor makes of its workflow. Main statement: unless an overflow
stops the executor, it comes to an end without an error and leaves the scheduler as it is; a schedule
that is not silent is shown to start and then, once, to complete or to fail; an executor is made at
most once, as silent as the schedule; and after a run that completed, and only then, the time is noted
in the schedule's record, which is all that changes in the store.
-/

namespace Runbook

open Program
open FileTree (Spares)

/-! ## Noting a run -/

namespace ScheduleStore

variable {store : ScheduleStore} {m : Machine} {id : String}

/-- What noting a run in the record of a schedule makes of a machine. Nothing changes if the store
cannot be read, or has no such record. Otherwise the time of the run is put into the first record
with the id; if the store cannot be written, it stays as it is, and at most its directory is
made. -/
inductive NotesRun (store : ScheduleStore) (id : String) (m : Machine) : Machine → Prop where
  | unreadable {e : ScheduleError}
      (hload : store.loaded (m.files.read m.current store.path) = .error e) : NotesRun store id m m
  | missing {schedules : List Schedule}
      (hload : store.loaded (m.files.read m.current store.path) = .ok schedules)
      (hmissing : ∀ s ∈ schedules, s.id ≠ id) : NotesRun store id m m
  | unwritable {front back : List Schedule} {s : Schedule} {text : String} {files : FileTree}
      {names : Nat}
      (hload : store.loaded (m.files.read m.current store.path) = .ok (front ++ s :: back))
      (hid : s.id = id) (hfirst : ∀ other ∈ front, other.id ≠ id)
      (hunwritten : ∀ files,
        ¬store.Writes m (front ++ { s with lastRun := some m.time } :: back) files)
      (hread : m.files.read m.current store.path = .ok text)
      (hspares : Spares m.current [] m.files files)
      (hsame : files.read m.current store.path = .ok text) :
      NotesRun store id m { m with files, names }
  | noted {front back : List Schedule} {s : Schedule} {files : FileTree}
      (hload : store.loaded (m.files.read m.current store.path) = .ok (front ++ s :: back))
      (hid : s.id = id) (hfirst : ∀ other ∈ front, other.id ≠ id)
      (hspares : Spares m.current [store.staging m, store.path] m.files files)
      (hread : files.read m.current store.path =
        .ok (Schedule.fileText (front ++ { s with lastRun := some m.time } :: back)))
      (hreload : m.time.IsShown → store.loaded (files.read m.current store.path) =
        .ok (front ++ { s with lastRun := some m.time } :: back)) :
      NotesRun store id m { m with files, names := m.names + 1 }

theorem exists_read_of_loaded {reply : Except SystemError String} {schedules : List Schedule}
    (h : store.loaded reply = .ok schedules) (hne : schedules ≠ []) : ∃ text, reply = .ok text := by
  cases reply with
  | ok text => exact ⟨text, rfl⟩
  | error e =>
    cases e with
    | notFound =>
      have hnil : [] = schedules := by simpa [loaded] using h
      exact absurd hnil.symm hne
    | _ => simp [loaded] at h

theorem keeps_recordRun : Keeps Machine.contract (fun next _ => NotesRun store id m next) m
    (store.recordRun id m.time).run := by
  have hchange : Keeps Machine.contract (fun next _ => NotesRun store id m next) m
      (store.change id fun s => { s with lastRun := some m.time }).run := by
    refine Machine.keeps_locked (keeps_except_bind (Machine.keeps_load store ?_))
    cases hload : store.loaded (m.files.read m.current store.path) with
    | error e => exact .unreadable hload
    | ok schedules =>
      dsimp only
      cases hfound : Schedule.change? id (fun s => { s with lastRun := some m.time }) schedules with
      | none => exact .missing hload (Schedule.change?_eq_none_iff.mp hfound)
      | some found =>
        obtain ⟨changed, others⟩ := found
        obtain ⟨front, s, back, hid, rfl, rfl, rfl, hfirst⟩ := Schedule.exists_of_change? hfound
        obtain ⟨text, hread⟩ := exists_read_of_loaded hload (by simp)
        refine keeps_except_bind (Machine.keeps_writeSchedules_of_read store hread ?_ ?_)
        · intro files hwrites
          refine .noted hload hid hfirst hwrites.spares.1 hwrites.spares.2 ?_
          intro hshown
          rw [hwrites.spares.2]
          refine loaded_fileText ?_
          have htimed := isTimed_of_loaded hload
          intro other hother
          rcases List.mem_append.mp hother with hfront | hback
          · exact htimed other (by simp [hfront])
          · rcases List.mem_cons.mp hback with rfl | hback
            · have hs := htimed s (by simp)
              exact ⟨hs.createdAt, fun t ht => Option.some.inj ht ▸ hshown⟩
            · exact htimed other (by simp [hback])
        · intro hunwritten files names e hspares
          exact .unwritable hload hid hfirst hunwritten hread hspares (hspares.read_same hread)
  refine keeps_except_bind (hchange.mono ?_)
  intro next r hnext
  cases r with
  | error e => exact hnext
  | ok _ => exact hnext

end ScheduleStore

/-! ## A scheduler that is watched -/

/-- An executor: what a run comes to on a machine, a message if it failed, and the machine that it
leaves. An overflow may stop it. -/
abbrev Executor := Bool → Workflow → Bindings String → Machine → Computed (Option String) × Machine

/-- A machine on which a scheduler works, with what it has shown, and for each executor that it has
made whether it is silent. -/
structure WatchedScheduler where
  machine : Machine
  notices : List SchedulerNotice
  executors : List Bool

namespace WatchedScheduler

def host (execute : Executor) : Host SchedulerCall.interface WatchedScheduler
  | w, .system c => ((w.machine.reply c).1, { w with machine := (w.machine.reply c).2 })
  | w, .notice n => ((), { w with notices := w.notices ++ [n] })
  | w, .execute isSilent workflow given =>
    let (outcome, machine) := execute isSilent workflow given w.machine
    (outcome, { w with machine, executors := w.executors ++ [isSilent] })

variable {execute : Executor} {w : WatchedScheduler} {σ : Scheduler}

abbrev contract (execute : Executor) : Contract SchedulerCall.interface WatchedScheduler :=
  .ofHost (host execute)

theorem onMachine : OnMachine (host execute) machine fun w m => { w with machine := m } where
  reply _ _ := rfl
  machine_put _ _ := rfl
  put_put _ _ _ := rfl
  put_machine _ := rfl

theorem keeps_procedure {α : Type} {p : Procedure α}
    {post : WatchedScheduler → Scheduler → α → Prop}
    (h : Keeps Machine.contract (fun m a => post { w with machine := m } σ a) w.machine p) :
    Scheduling.Keeps (contract execute) post w σ (Scheduling.procedure p) :=
  Scheduling.keeps_procedure.mpr (onMachine.keeps h)

theorem keeps_call {c : SchedulerCall} {post : WatchedScheduler → Scheduler → c.Reply → Prop}
    (h : post (host execute w c).2 σ (host execute w c).1) :
    Scheduling.Keeps (contract execute) post w σ (Scheduling.call c) := by
  refine ⟨trivial, ?_⟩
  intro reply t hfollows
  obtain ⟨rfl, rfl⟩ := Prod.mk.inj hfollows.symm
  exact h

end WatchedScheduler

/-! ## Runs -/

theorem Workflow.exists_perform_load (m : Machine) (path : FilePath) :
    ∃ loaded, m.perform (Workflow.load path) = some (loaded, m) := by
  have hload : Keeps Machine.contract (fun next _ => next = m) m (Workflow.load path) := by
    unfold Workflow.load
    cases FileFormat.ofPath? path with
    | error e => rfl
    | ok format =>
      refine keeps_bind.mpr (Machine.keeps_read ?_)
      cases m.files.read m.current path with
      | error e => rfl
      | ok content =>
        refine keeps_bind.mpr (keeps_bind.mpr (Machine.keeps_canonicalize ?_))
        cases m.files.canonicalize m.current path <;> rfl
  obtain ⟨loaded, next, hperform, rfl⟩ := hload.finish
  exact ⟨loaded, hperform⟩

namespace Schedule

/-- What is shown of a run: its start and its end, if there is one, or nothing if the schedule is
silent. -/
def shown (s : Schedule) (ending : List SchedulerNotice) : List SchedulerNotice :=
  if s.isSilent then [] else .runStarted s.displayName s.profile :: ending

/-- What the run of a schedule comes to. -/
inductive RunEnds (execute : Executor) (store : ScheduleStore) (s : Schedule)
    (w : WatchedScheduler) : Computed Unit → WatchedScheduler → Prop where
  /-- The workflow cannot be loaded. -/
  | unloaded {e : WorkflowError}
      (hload : w.machine.perform (Workflow.load s.workflowPath) = some (.error e, w.machine)) :
      RunEnds execute store s w (.ok ()) { w with
        notices := w.notices ++ s.shown
          [.runFailed s.displayName (s!"Failed to load {s.workflowPath}: " ++ e.fullMessage)] }
  /-- The workflow has no such profile. -/
  | unresolved {workflow : Workflow} {e : WorkflowError}
      (hload : w.machine.perform (Workflow.load s.workflowPath) = some (.ok workflow, w.machine))
      (hgiven : workflow.runVariables s.profile [] = .error e) :
      RunEnds execute store s w (.ok ()) { w with
        notices := w.notices ++ s.shown [.runFailed s.displayName e.fullMessage] }
  /-- The executor comes to a failure. -/
  | failed {workflow : Workflow} {given : Bindings String} {reason : String} {after : Machine}
      (hload : w.machine.perform (Workflow.load s.workflowPath) = some (.ok workflow, w.machine))
      (hgiven : workflow.runVariables s.profile [] = .ok given)
      (hexecute : execute s.isSilent workflow given w.machine = (.ok (some reason), after)) :
      RunEnds execute store s w (.ok ()) ⟨after,
        w.notices ++ s.shown [.runFailed s.displayName reason], w.executors ++ [s.isSilent]⟩
  /-- The executor completes the run, which is noted if that can be done. -/
  | completed {workflow : Workflow} {given : Bindings String} {after next : Machine}
      (hload : w.machine.perform (Workflow.load s.workflowPath) = some (.ok workflow, w.machine))
      (hgiven : workflow.runVariables s.profile [] = .ok given)
      (hexecute : execute s.isSilent workflow given w.machine = (.ok none, after))
      (hnoted : store.NotesRun s.id after next) :
      RunEnds execute store s w (.ok ()) ⟨next,
        w.notices ++ s.shown [.runCompleted s.displayName], w.executors ++ [s.isSilent]⟩
  /-- An overflow stops the executor. -/
  | stopped {workflow : Workflow} {given : Bindings String} {e : Overflow} {after : Machine}
      (hload : w.machine.perform (Workflow.load s.workflowPath) = some (.ok workflow, w.machine))
      (hgiven : workflow.runVariables s.profile [] = .ok given)
      (hexecute : execute s.isSilent workflow given w.machine = (.error e, after)) :
      RunEnds execute store s w (.error e) ⟨after,
        w.notices ++ s.shown [], w.executors ++ [s.isSilent]⟩

variable {execute : Executor} {store : ScheduleStore} {s : Schedule} {w w' : WatchedScheduler}
  {result : Computed Unit}

/-- The workflow can be loaded and has the profile, and the executor comes to an outcome. -/
def Executes (execute : Executor) (s : Schedule) (m : Machine)
    (outcome : Computed (Option String)) : Prop :=
  ∃ workflow given after, m.perform (Workflow.load s.workflowPath) = some (.ok workflow, m) ∧
    workflow.runVariables s.profile [] = .ok given ∧
    execute s.isSilent workflow given m = (outcome, after)

theorem Executes.unique {m : Machine} {outcome other : Computed (Option String)}
    (h : s.Executes execute m outcome) (hother : s.Executes execute m other) : outcome = other := by
  obtain ⟨workflow, given, after, hload, hgiven, hexecute⟩ := h
  obtain ⟨_, _, _, hload', hgiven', hexecute'⟩ := hother
  cases hload.symm.trans hload'
  cases hgiven.symm.trans hgiven'
  cases hexecute.symm.trans hexecute'
  rfl

/-- A run that ends is shown to complete exactly if the executor completes it, and only an overflow
of the executor keeps it from its end. -/
theorem RunEnds.once (h : s.RunEnds execute store w result w') :
    (result = .ok () ∧ (∀ e, ¬s.Executes execute w.machine (.error e)) ∧
      ∃ ending, w'.notices = w.notices ++ s.shown [ending] ∧
        (s.Executes execute w.machine (.ok none) ∧ ending = .runCompleted s.displayName ∨
          ¬s.Executes execute w.machine (.ok none) ∧
            ∃ reason, ending = .runFailed s.displayName reason)) ∨
    ∃ e, result = .error e ∧ s.Executes execute w.machine (.error e) ∧
      w'.notices = w.notices ++ s.shown [] := by
  cases h with
  | unloaded hload =>
    have hnone : ∀ outcome, ¬s.Executes execute w.machine outcome := by
      rintro outcome ⟨workflow, given, after, hother, -, -⟩
      cases hload.symm.trans hother
    exact .inl ⟨rfl, fun e => hnone _, _, rfl, .inr ⟨hnone _, _, rfl⟩⟩
  | unresolved hload hgiven =>
    have hnone : ∀ outcome, ¬s.Executes execute w.machine outcome := by
      rintro outcome ⟨workflow, given, after, hother, hvalues, -⟩
      cases hload.symm.trans hother
      cases hgiven.symm.trans hvalues
    exact .inl ⟨rfl, fun e => hnone _, _, rfl, .inr ⟨hnone _, _, rfl⟩⟩
  | failed hload hgiven hexecute =>
    have hfailed : s.Executes execute w.machine (.ok (some _)) :=
      ⟨_, _, _, hload, hgiven, hexecute⟩
    refine .inl ⟨rfl, fun e he => ?_, _, rfl, .inr ⟨fun hcompleted => ?_, _, rfl⟩⟩
    · cases hfailed.unique he
    · cases hfailed.unique hcompleted
  | completed hload hgiven hexecute hnoted =>
    have hcompleted : s.Executes execute w.machine (.ok none) :=
      ⟨_, _, _, hload, hgiven, hexecute⟩
    refine .inl ⟨rfl, fun e he => ?_, _, rfl, .inl ⟨hcompleted, rfl⟩⟩
    cases hcompleted.unique he
  | stopped hload hgiven hexecute =>
    exact .inr ⟨_, rfl, ⟨_, _, _, hload, hgiven, hexecute⟩, rfl⟩

theorem RunEnds.executors (h : s.RunEnds execute store w result w') :
    w'.executors = w.executors ∨ w'.executors = w.executors ++ [s.isSilent] := by
  cases h with
  | unloaded hload => exact .inl rfl
  | unresolved hload hgiven => exact .inl rfl
  | failed hload hgiven hexecute => exact .inr rfl
  | completed hload hgiven hexecute hnoted => exact .inr rfl
  | stopped hload hgiven hexecute => exact .inr rfl

end Schedule

namespace Scheduler

open WatchedScheduler (contract)
open Scheduling (keeps_bind keeps_map)

variable {execute : Executor} {w : WatchedScheduler} {σ : Scheduler} {s : Schedule}

/-- The workflow is run with the values of the profile, unless one of them is missing. -/
theorem keeps_prepareRun
    {post : WatchedScheduler → Scheduler → Except String (Workflow × Bindings String) → Prop}
    (hunloaded : ∀ e,
      w.machine.perform (Workflow.load s.workflowPath) = some (.error e, w.machine) →
      post w σ (.error (s!"Failed to load {s.workflowPath}: " ++ e.fullMessage)))
    (hunresolved : ∀ workflow e,
      w.machine.perform (Workflow.load s.workflowPath) = some (.ok workflow, w.machine) →
      workflow.runVariables s.profile [] = .error e → post w σ (.error e.fullMessage))
    (hok : ∀ workflow given,
      w.machine.perform (Workflow.load s.workflowPath) = some (.ok workflow, w.machine) →
      workflow.runVariables s.profile [] = .ok given → post w σ (.ok (workflow, given))) :
    Scheduling.Keeps (contract execute) post w σ (prepareRun s) := by
  obtain ⟨loaded, hload⟩ := Workflow.exists_perform_load w.machine s.workflowPath
  refine keeps_bind.mpr (WatchedScheduler.keeps_procedure ((keeps_of_finish hload).mono ?_))
  rintro m r ⟨rfl, rfl⟩
  cases r with
  | error e => exact hunloaded e hload
  | ok workflow =>
    dsimp only
    cases hgiven : workflow.runVariables s.profile [] with
    | error e => exact hunresolved workflow e hload hgiven
    | ok given => exact hok workflow given hload hgiven

theorem keeps_announce {n : SchedulerNotice} {post : WatchedScheduler → Scheduler → Unit → Prop}
    (h : post { w with notices := w.notices ++ if s.isSilent then [] else [n] } σ ()) :
    Scheduling.Keeps (contract execute) post w σ (announce s n) := by
  unfold announce
  cases hsilent : s.isSilent with
  | true => simpa [hsilent] using h
  | false =>
    refine WatchedScheduler.keeps_call (c := .notice n) ?_
    simpa [hsilent, WatchedScheduler.host] using h

/-- The end of a run is shown, and that of one that completed is noted. -/
theorem keeps_conclude {failure? : Option String}
    {post : WatchedScheduler → Scheduler → Unit → Prop}
    (hfailed : ∀ reason, failure? = some reason → post { w with
      notices := w.notices ++ if s.isSilent then [] else [.runFailed s.displayName reason] } σ ())
    (hcompleted : failure? = none → ∀ next, σ.store.NotesRun s.id w.machine next → post { w with
      machine := next
      notices := w.notices ++ if s.isSilent then [] else [.runCompleted s.displayName] } σ ()) :
    Scheduling.Keeps (contract execute) post w σ (conclude s failure?) := by
  cases failure? with
  | some reason => exact keeps_announce (hfailed reason rfl)
  | none =>
    refine keeps_bind.mpr (WatchedScheduler.keeps_procedure (Machine.keeps_now ?_))
    refine keeps_bind.mpr (Scheduling.keeps_get.mpr ?_)
    refine keeps_bind.mpr (WatchedScheduler.keeps_procedure ?_)
    refine ScheduleStore.keeps_recordRun.mono fun next r hnoted => ?_
    exact keeps_announce (hcompleted rfl next hnoted)

/-- After a start that was shown, the notices are those of the whole run. -/
theorem keeps_conclude_started {v : WatchedScheduler} {failure? : Option String}
    (hstarted : v.notices = w.notices ++ if s.isSilent then [] else
      [.runStarted s.displayName s.profile])
    {post : WatchedScheduler → Scheduler → Unit → Prop}
    (hfailed : ∀ reason, failure? = some reason → post { v with
      notices := w.notices ++ s.shown [.runFailed s.displayName reason] } σ ())
    (hcompleted : failure? = none → ∀ next, σ.store.NotesRun s.id v.machine next → post { v with
      machine := next
      notices := w.notices ++ s.shown [.runCompleted s.displayName] } σ ()) :
    Scheduling.Keeps (contract execute) post v σ (conclude s failure?) := by
  have hshown (ending : SchedulerNotice) :
      (v.notices ++ if s.isSilent then [] else [ending]) = w.notices ++ s.shown [ending] := by
    unfold Schedule.shown
    cases hsilent : s.isSilent <;> simp [hstarted, hsilent]
  refine keeps_conclude (fun reason hreason => ?_) fun hnone next hnoted => ?_
  · rw [hshown]
    exact hfailed reason hreason
  · rw [hshown]
    exact hcompleted hnone next hnoted

theorem keeps_runSchedule : Scheduling.Keeps (contract execute)
    (fun w' τ result => τ = σ ∧ s.RunEnds execute σ.store w result w') w σ (runSchedule s) := by
  unfold runSchedule
  refine keeps_bind.mpr (keeps_announce (keeps_bind.mpr (keeps_prepareRun ?_ ?_ ?_)))
  · intro e hload
    refine Scheduling.keeps_bind.mpr (Scheduling.keeps_pure.mpr
      (keeps_map (keeps_conclude_started rfl ?_ fun h => nomatch h)))
    rintro _ ⟨⟩
    exact ⟨rfl, .unloaded hload⟩
  · intro workflow e hload hgiven
    refine Scheduling.keeps_bind.mpr (Scheduling.keeps_pure.mpr
      (keeps_map (keeps_conclude_started rfl ?_ fun h => nomatch h)))
    rintro _ ⟨⟩
    exact ⟨rfl, .unresolved hload hgiven⟩
  · intro workflow given hload hgiven
    dsimp only
    refine keeps_bind.mpr
      (WatchedScheduler.keeps_call (c := .execute s.isSilent workflow given) ?_)
    rcases hexecute : execute s.isSilent workflow given w.machine with ⟨e | failure?, after⟩
    · have hstarted : (w.notices ++ if s.isSilent then [] else
          [.runStarted s.displayName s.profile]) = w.notices ++ s.shown [] := rfl
      simp only [WatchedScheduler.host, hexecute, hstarted]
      exact ⟨rfl, .stopped hload hgiven hexecute⟩
    · simp only [WatchedScheduler.host, hexecute]
      refine keeps_map (keeps_conclude_started rfl ?_ ?_)
      · rintro reason rfl
        exact ⟨rfl, .failed hload hgiven hexecute⟩
      · rintro rfl next hnoted
        exact ⟨rfl, .completed hload hgiven hexecute hnoted⟩

def nightly : Schedule :=
  ⟨"a", some "nightly", "/flow.json", "0 2 * * *", true, ⟨0, 0⟩, none, none, none, none⟩

def nightlyWatch : WatchedScheduler :=
  ⟨⟨⟨[(["flow.json"], ⟨some "\x7b\"steps\": [\x7b\"run\": \"true\"\x7d]\x7d", ⟨0, 0⟩⟩),
    (["schedules.json"], ⟨some (Schedule.fileText [nightly]), ⟨0, 0⟩⟩)]⟩, "/", ⟨60, 0⟩, 7, [], 0⟩,
    [], []⟩

theorem isTimed_nightly : nightly.IsTimed :=
  ⟨Timestamp.isShown_of_year (by decide) (by decide) (by decide), by simp [nightly]⟩

theorem exists_prepared_nightly : ∃ workflow given,
    nightlyWatch.machine.perform (Workflow.load nightly.workflowPath) =
      some (.ok workflow, nightlyWatch.machine) ∧
    workflow.runVariables nightly.profile [] = .ok given := by
  have hprepared : (nightlyWatch.machine.perform (Workflow.load nightly.workflowPath)).map (fun r =>
      (r.1.toOption.map fun workflow => (workflow.runVariables nightly.profile []).isOk)) =
      some (some true) := by decide +kernel
  obtain ⟨loaded, hload⟩ := Workflow.exists_perform_load nightlyWatch.machine nightly.workflowPath
  rw [hload] at hprepared
  cases loaded with
  | error e => cases hprepared
  | ok workflow =>
    cases hgiven : workflow.runVariables nightly.profile [] with
    | error e => simp [hgiven, Except.toOption, Except.isOk, Except.toBool] at hprepared
    | ok given => exact ⟨workflow, given, hload, hgiven⟩

/-- Noting the run of the schedule on its machine puts the time into its record. -/
theorem loaded_of_notesRun_nightly {next : Machine}
    (h : ScheduleStore.NotesRun ⟨"/schedules.json"⟩ "a" nightlyWatch.machine next) :
    ScheduleStore.loaded ⟨"/schedules.json"⟩ (next.files.read next.current "/schedules.json") =
      .ok [{ nightly with lastRun := some ⟨60, 0⟩ }] := by
  have hbefore : ScheduleStore.loaded ⟨"/schedules.json"⟩
      (nightlyWatch.machine.files.read nightlyWatch.machine.current "/schedules.json") =
      .ok [nightly] := by
    have hread : nightlyWatch.machine.files.read nightlyWatch.machine.current "/schedules.json" =
        .ok (Schedule.fileText [nightly]) := rfl
    rw [hread]
    exact ScheduleStore.loaded_fileText (by simpa using isTimed_nightly)
  have honly {front back : List Schedule} {s : Schedule}
      (hload : Except.ok (front ++ s :: back) = (.ok [nightly] : Except ScheduleError _)) :
      front = [] ∧ s = nightly ∧ back = [] := by
    simpa [List.append_eq_cons_iff] using hload
  cases h with
  | unreadable hload => cases hload.symm.trans hbefore
  | missing hload hmissing =>
    obtain rfl := Except.ok.inj (hload.symm.trans hbefore)
    exact absurd rfl (hmissing nightly (by simp))
  | unwritable hload _ _ hunwritten =>
    obtain ⟨rfl, rfl, rfl⟩ := honly (hload.symm.trans hbefore)
    have hsave : (nightlyWatch.machine.perform (ScheduleStore.save ⟨"/schedules.json"⟩
        ([] ++ { nightly with lastRun := some nightlyWatch.machine.time } :: [])).run).map (·.1) =
        some (.ok ()) := by decide +kernel
    obtain ⟨⟨result, saved⟩, hperform, rfl⟩ := Option.map_eq_some_iff.mp hsave
    obtain ⟨files, hwrites, -⟩ := ScheduleStore.writes_of_perform_save hperform
    exact absurd hwrites (hunwritten files)
  | noted hload _ _ _ _ hreload =>
    obtain ⟨rfl, rfl, rfl⟩ := honly (hload.symm.trans hbefore)
    exact hreload (Timestamp.isShown_of_year (by decide) (by decide) (by decide))

end Scheduler

end Runbook
