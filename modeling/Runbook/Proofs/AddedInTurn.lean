import Runbook.Proofs.Adding

/-!
Adding a schedule file. Main statement: a file that is not read as definitions without gaps changes
nothing; otherwise each definition is added or rejected by itself, unless its workflow is the
store's own file or lies where a directory is still to be made.
-/

namespace Runbook

open Program

namespace ScheduleStore

open Machine (keeps_locked)

variable {store : ScheduleStore} {m saved : Machine} {made : FileTree} {target : Place}
  {stored schedules : List Schedule} {file : FilePath}

/-! ### One definition among others -/

variable (store) in
/-- A path leads to the store's file, or it led nowhere before the store was saved. -/
def Touches (m saved : Machine) (path : FilePath) : Prop :=
  (∃ place, saved.files.locate saved.current path = .ok place ∧
    saved.files.locate saved.current store.path = .ok place) ∨
  ∃ cause, m.files.locate m.current path = .error cause

/-- What can be told of one definition whatever the others are: it becomes what it is prepared as
from the start, unless it cannot be prepared then and the path of its workflow leads to the store's
own file or led nowhere. If it is added, its schedule is its own. -/
structure SettlesAlone (store : ScheduleStore) (m saved : Machine) (file : FilePath)
    (d : ScheduleDefinition) (outcome : Except ScheduleError Schedule) : Prop where
  verdict : Settles m.time (d.prepared m file) outcome ∨
    (∃ e, d.prepared m file = .ok (.error e)) ∧ store.Touches m saved (d.workflowPath file) ∧
      Settles m.time (d.prepared saved file) outcome
  describes : ∀ s, outcome = .ok s → d.Describes s

theorem describes_of_settles {d : ScheduleDefinition} {time : Timestamp} {s : Schedule}
    (h : Settles time (d.prepared m file) (.ok s)) : d.Describes s := by
  obtain ⟨id, hid⟩ := h
  rcases hprepared : d.prepared m file with e | e | new
  · simp [hprepared, Except.map] at hid
  · simp [hprepared, Except.map] at hid
  · obtain ⟨-, path, rfl⟩ := ScheduleDefinition.exists_of_prepared hprepared
    rw [hprepared] at hid
    obtain rfl := Except.ok.inj (Except.ok.inj hid)
    exact ⟨rfl, rfl, rfl, rfl, rfl, rfl, rfl⟩

theorem forall₂_of_verdicts {R : ScheduleDefinition → Except ScheduleError Schedule → Prop}
    {time : Timestamp} {definitions : List ScheduleDefinition}
    {outcomes : List (Except ScheduleError Schedule)}
    (hstart : ∀ d outcome, Settles time (d.prepared m file) outcome → R d outcome)
    (hlater : ∀ d outcome, Settles time (d.prepared saved file) outcome → R d outcome)
    (h : List.Forall₂ (Settles time) (verdicts file saved m definitions) outcomes) :
    List.Forall₂ R definitions outcomes := by
  induction definitions generalizing m outcomes with
  | nil =>
    cases h
    exact .nil
  | cons d rest ih =>
    obtain ⟨outcome, others, houtcome, hrest, rfl⟩ := List.forall₂_cons_left_iff.mp h
    refine .cons (hstart d outcome houtcome) (ih ?_ hrest)
    split
    · exact hlater
    · exact hstart

variable (store) in
structure HasSaved (m saved : Machine) (made : FileTree) (target : Place) : Prop where
  current : saved.current = m.current
  directories : m.files.KeepsDirectories saved.files
  files : ∀ place, made.kind? place = some .file ↔ m.files.kind? place = some .file
  kinds : ∀ place, saved.files.kind? place = if target = place then some .file else made.kind? place
  located : saved.files.locate saved.current store.path = .ok target

theorem hasSaved (hmade : store.Makes m made) (hready : store.Ready { m with files := made } target)
    (hsave : m.perform (store.save schedules).run = some (.ok (), saved)) :
    store.HasSaved m saved made target := by
  obtain ⟨files, hwrites, rfl⟩ := writes_of_perform_save hsave
  obtain ⟨other, hother, hkinds⟩ := hready.writes hmade schedules
  obtain rfl : files = other := hwrites.unique hother
  refine ⟨rfl, hwrites.spares.1.directories, fun place => ?_, hkinds, ?_⟩
  · simp only [FileTree.kind?_eq_file_iff, hmade.spares.texts place (by simp)]
  · exact (hready.of_kinds (Nat.le_succ m.names) hkinds).file.located

theorem HasSaved.keeps_file (hsaved : store.HasSaved m saved made target) (place : Place)
    (h : m.files.kind? place = some .file) : saved.files.kind? place = some .file := by
  rw [hsaved.kinds]
  split
  · rfl
  · exact (hsaved.files place).mpr h

theorem HasSaved.file_cases (hsaved : store.HasSaved m saved made target) (place : Place)
    (h : saved.files.kind? place = some .file) :
    target = place ∨ m.files.kind? place = some .file := by
  rw [hsaved.kinds] at h
  split at h
  next heq => exact .inl heq
  next => exact .inr ((hsaved.files place).mp h)

theorem exists_checkTimes_of_settles {d : ScheduleDefinition} {time : Timestamp}
    {outcome : Except ScheduleError Schedule} (h : Settles time (d.prepared saved file) outcome) :
    ∃ times, d.checkTimes = .ok times := by
  obtain ⟨id, hid⟩ := h
  cases hcheck : d.checkTimes with
  | error e =>
    rw [ScheduleDefinition.prepared_of_checkTimes_error hcheck] at hid
    cases hid
  | ok times => exact ⟨times, rfl⟩

theorem HasSaved.settlesAlone {d : ScheduleDefinition} {outcome : Except ScheduleError Schedule}
    (hsaved : store.HasSaved m saved made target)
    (h : Settles m.time (d.prepared m file) outcome ∨
      Settles m.time (d.prepared saved file) outcome) :
    store.SettlesAlone m saved file d outcome := by
  refine ⟨?_, fun s hs => ?_⟩
  · rcases h with h | h
    · exact .inl h
    obtain ⟨times, htimes⟩ := exists_checkTimes_of_settles h
    have hprepared : d.prepared m file = .ok (times.bind fun _ => d.placed m file) :=
      ScheduleDefinition.prepared_eq_ok_iff.mpr ⟨times, htimes, rfl⟩
    cases hverdict : times.bind fun _ => d.placed m file with
    | ok new =>
      rw [hverdict] at hprepared
      have hlater := ScheduleDefinition.prepared_of_kept hsaved.current hsaved.directories
        hsaved.keeps_file hprepared
      exact .inl (hprepared.trans hlater.symm ▸ h)
    | error e =>
      rw [hverdict] at hprepared
      rcases ScheduleDefinition.prepared_error_cases hsaved.current hsaved.directories
        hsaved.file_cases hprepared with hsame | htarget | hnowhere
      · exact .inl (hprepared.trans hsame.symm ▸ h)
      · exact .inr ⟨⟨e, hprepared⟩, .inl ⟨target, htarget, hsaved.located⟩, h⟩
      · exact .inr ⟨⟨e, hprepared⟩, .inr hnowhere, h⟩
  · subst hs
    exact h.elim describes_of_settles describes_of_settles

/-! ### Adding a file -/

variable (store) in
/-- The definitions of a file were added in turn: each was added or rejected as it was prepared, and
what was added follows in the store what was there before. -/
structure AddedInTurn (m saved next : Machine) (file : FilePath)
    (definitions : List ScheduleDefinition) (old : List Schedule)
    (result : Except ScheduleError AddReport) (outcomes : List (Except ScheduleError Schedule)) :
    Prop where
  report : result = .ok (.of definitions outcomes)
  inTurn : List.Forall₂ (Settles m.time) (verdicts file saved m definitions) outcomes
  alone : List.Forall₂ (store.SettlesAlone m saved file) definitions outcomes
  complete : (AddReport.of definitions outcomes).added.length +
    (AddReport.of definitions outcomes).rejected.length = definitions.length
  stored : next.perform store.load.run =
    some (.ok (old ++ (AddReport.of definitions outcomes).added), next)

theorem isTimed_of_loaded {reply : Except SystemError String}
    (h : store.loaded reply = .ok stored) : ∀ s ∈ stored, s.IsTimed := by
  unfold loaded at h
  split at h
  next =>
    obtain rfl := Except.ok.inj h
    simp
  next => cases h
  next text =>
    cases hread : Schedule.readFile? text with
    | none => simp [hread] at h
    | some schedules =>
      simp only [hread, Except.ok.injEq] at h
      exact h ▸ Schedule.isTimed_of_readFile? hread

theorem keeps_addFile {may : Halt → Prop} {definitions : List ScheduleDefinition}
    (hfile : m.perform (ScheduleDefinition.load file) = some (.ok definitions, m))
    (hload : m.perform store.load.run = some (.ok stored, m)) (hcan : store.CanSave m stored)
    (hfresh : store.NamesFresh m) (hshown : m.time.IsShown)
    (hsave : m.perform (store.save stored).run = some (.ok (), saved))
    (hids : may .bound ∨ Schedule.FindsIds definitions.length m.names (stored.map Schedule.id))
    (hover : ∀ d ∈ definitions, d.checkTimes = .error .overflow → may .overflow) :
    Keeps (Machine.contractUnless may) (fun next result =>
      ∃ outcomes, store.AddedInTurn m saved next file definitions stored result outcomes) m
      (store.addFile file).run := by
  obtain ⟨made, target, hmade, hready⟩ := hcan.ready hfresh
  have hsaved := hasSaved hmade hready hsave
  have hloaded : store.loaded (m.files.read m.current store.path) = .ok stored := by
    rw [Machine.perform_load] at hload
    exact (Prod.mk.inj (Option.some.inj hload)).1
  have hadd : store.CanAdd may definitions.length m made target stored :=
    ⟨hmade, hready, hloaded, isTimed_of_loaded hloaded, hshown, hids⟩
  refine keeps_except_bind (Keeps.mono (keeps_of_finish hfile).unless ?_)
  rintro t r ⟨rfl, rfl⟩
  refine keeps_addDefinitions hover hadd (fun _ => rfl) rfl hsaved.kinds hsaved.current.symm
    fun outcomes next hout hnext => ?_
  have halone : List.Forall₂ (store.SettlesAlone t saved file) definitions outcomes :=
    forall₂_of_verdicts (fun d outcome h => hsaved.settlesAlone (.inl h))
      (fun d outcome h => hsaved.settlesAlone (.inr h)) hout
  refine ⟨outcomes, rfl, hout, halone, AddReport.length_of halone.length_eq, ?_⟩
  rw [Machine.perform_load, hnext]

/-- Adding what is loaded of a file comes to an end if free ids are found, unless an expression
overflows. -/
theorem exists_addedInTurn_or {definitions : List ScheduleDefinition}
    (hfile : m.perform (ScheduleDefinition.load file) = some (.ok definitions, m))
    (hload : m.perform store.load.run = some (.ok stored, m)) (hcan : store.CanSave m stored)
    (hfresh : store.NamesFresh m) (hshown : m.time.IsShown)
    (hsave : m.perform (store.save stored).run = some (.ok (), saved))
    (hids : Schedule.FindsIds definitions.length m.names (stored.map Schedule.id)) :
    (∃ result next outcomes, m.perform (store.addFile file).run = some (result, next) ∧
      store.AddedInTurn m saved next file definitions stored result outcomes) ∨
    m.perform (store.addFile file).run = none ∧ ScheduleDefinition.HasOverflow definitions := by
  have hadd : Keeps (Machine.contractUnless fun _ => ScheduleDefinition.HasOverflow definitions)
      (fun next result => ∃ outcomes,
        store.AddedInTurn m saved next file definitions stored result outcomes) m
      (store.addFile file).run :=
    keeps_addFile hfile hload hcan hfresh hshown hsave (.inr hids) fun d hd hover => ⟨d, hd, hover⟩
  rcases hadd.finish_or with ⟨result, next, hperform, outcomes, hadded⟩ | ⟨hnone, -, hover⟩
  · exact .inl ⟨result, next, outcomes, hperform, hadded⟩
  · exact .inr ⟨hnone, hover⟩

theorem perform_addFile_of_load_error {e : ScheduleError}
    (hload : m.perform (ScheduleDefinition.load file) = some (.error e, m)) :
    m.perform (store.addFile file).run = some (.error e, m) := by
  refine Machine.perform_eq (keeps_except_bind ((keeps_of_finish hload).mono ?_))
  rintro t r ⟨rfl, rfl⟩
  exact ⟨rfl, rfl⟩

/-- Nothing is added to a store that cannot be read, and its error is met with the first definition
that can be prepared. -/
theorem addFile_unreadable {definitions : List ScheduleDefinition} {e : ScheduleError}
    (hfile : m.perform (ScheduleDefinition.load file) = some (.ok definitions, m))
    (hload : m.perform store.load.run = some (.error e, m)) :
    (∃ result, m.perform (store.addFile file).run = some (result, m) ∧
      ((∃ d ∈ definitions, ∃ new, d.prepared m file = .ok (.ok new)) → result = .error e)) ∨
    m.perform (store.addFile file).run = none ∧ ScheduleDefinition.HasOverflow definitions := by
  rw [Machine.perform_load] at hload
  have hloaded := (Prod.mk.inj (Option.some.inj hload)).1
  have hadd : Keeps (Machine.contractUnless fun _ => ScheduleDefinition.HasOverflow definitions)
      (fun next result => next = m ∧
        ((∃ d ∈ definitions, ∃ new, d.prepared m file = .ok (.ok new)) → result = .error e)) m
      (store.addFile file).run := by
    refine keeps_except_bind (Keeps.mono (keeps_of_finish hfile).unless ?_)
    rintro t r ⟨rfl, rfl⟩
    refine keeps_addDefinitions_unreadable hloaded (fun d hd hover => ⟨d, hd, hover⟩)
      ⟨rfl, fun _ => rfl⟩ fun hnone report => ⟨rfl, ?_⟩
    rintro ⟨d, hd, new, hnew⟩
    obtain ⟨cause, hcause⟩ := hnone d hd
    cases hcause.symm.trans hnew
  rcases hadd.finish_or with ⟨result, next, hperform, rfl, hresult⟩ | ⟨hnone, -, hover⟩
  · exact .inl ⟨result, hperform, hresult⟩
  · exact .inr ⟨hnone, hover⟩

/-- Adding a schedule file. If its definitions cannot be loaded, or the store cannot be read,
nothing changes. A document of definitions is loaded unless something is missing, and all that is
missing is listed in order. What is loaded is added in turn to a store that can be read and written.
This comes to an end if free ids are found, unless an expression overflows. -/
theorem addFile_in_turn (store : ScheduleStore) (m : Machine) (file : FilePath) :
    (∃ loaded, m.perform (ScheduleDefinition.load file) = some (loaded, m) ∧
      ∀ e, loaded = .error e → m.perform (store.addFile file).run = some (.error e, m)) ∧
    (∀ format content document definitions, FileFormat.ofPath? file = .ok format →
      m.files.read m.current file = .ok content → readDocument format content = .ok document →
      ScheduleDefinition.listOfDocument? document = some definitions →
      let gaps := ScheduleDefinition.allGaps definitions
      m.perform (ScheduleDefinition.load file) = some (if gaps = [] then .ok definitions else
        .error (.invalidFile (ScheduleDefinition.gapText definitions)), m) ∧
      (∀ g, g ∈ gaps ↔ ScheduleDefinition.Lacks definitions g) ∧
      gaps.Pairwise fun a b => a.position < b.position) ∧
    (∀ definitions e, m.perform (ScheduleDefinition.load file) = some (.ok definitions, m) →
      m.perform store.load.run = some (.error e, m) →
      (∃ result, m.perform (store.addFile file).run = some (result, m) ∧
        ((∃ d ∈ definitions, ∃ new, d.prepared m file = .ok (.ok new)) → result = .error e)) ∨
      m.perform (store.addFile file).run = none ∧ ScheduleDefinition.HasOverflow definitions) ∧
    ∀ definitions old saved, m.perform (ScheduleDefinition.load file) = some (.ok definitions, m) →
      m.perform store.load.run = some (.ok old, m) → store.CanSave m old → store.NamesFresh m →
      m.time.IsShown → m.perform (store.save old).run = some (.ok (), saved) →
      (∀ result next, m.perform (store.addFile file).run = some (result, next) →
        ∃ outcomes, store.AddedInTurn m saved next file definitions old result outcomes) ∧
      (Schedule.FindsIds definitions.length m.names (old.map Schedule.id) →
        (∃ result next, m.perform (store.addFile file).run = some (result, next)) ∨
        m.perform (store.addFile file).run = none ∧
          ScheduleDefinition.HasOverflow definitions) := by
  refine ⟨?_, ?_, ?_, ?_⟩
  · obtain ⟨loaded, hload⟩ := ScheduleDefinition.exists_perform_load m file
    refine ⟨loaded, hload, fun e he => ?_⟩
    subst he
    exact perform_addFile_of_load_error hload
  · intro format content document definitions hformat hread hdocument hlist
    exact ⟨ScheduleDefinition.perform_load_of_document hformat hread hdocument hlist,
      fun g => ScheduleDefinition.mem_allGaps_iff, ScheduleDefinition.pairwise_allGaps definitions⟩
  · intro definitions e hfile hload
    exact addFile_unreadable hfile hload
  · intro definitions old saved hfile hload hcan hfresh hshown hsave
    constructor
    · intro result next hperform
      have hadd : Keeps (Machine.contractUnless fun _ => True) (fun next result => ∃ outcomes,
          store.AddedInTurn m saved next file definitions old result outcomes) m
          (store.addFile file).run :=
        keeps_addFile hfile hload hcan hfresh hshown hsave (.inl trivial) fun _ _ _ => trivial
      exact hadd.fits hperform
    · intro hids
      refine (exists_addedInTurn_or hfile hload hcan hfresh hshown hsave hids).imp_left ?_
      rintro ⟨result, next, -, hperform, -⟩
      exact ⟨result, next, hperform⟩

/-! ### A definition whose workflow is the store's own file -/

namespace OwnFile

def emptyStore : ScheduleStore := ⟨"schedules.json"⟩

def first : ScheduleDefinition := ⟨"one", "0 9 * * 1", "flow.yaml", none, none, none, none⟩

def second : ScheduleDefinition := ⟨"two", "0 9 * * 1", "schedules.json", none, none, none, none⟩

def definitions : List ScheduleDefinition := [first, second]

/-- A machine with a file of these definitions, the workflow of the first one, and a file without
definitions. -/
def machine : Machine :=
  ⟨⟨[(["flow.yaml"], ⟨some "", ⟨0, 0⟩⟩),
    (["none.json"], ⟨some "\x7b\x7d", ⟨0, 0⟩⟩),
    (["s.json"], ⟨some "\x7b\"schedules\": [
      \x7b\"name\": \"one\", \"cron\": \"0 9 * * 1\", \"workflow\": \"flow.yaml\"\x7d,
      \x7b\"name\": \"two\", \"cron\": \"0 9 * * 1\", \"workflow\": \"schedules.json\"\x7d]\x7d",
      ⟨0, 0⟩⟩)]⟩, "/", ⟨0, 0⟩, 1, [], 0⟩

theorem perform_load_definitions : machine.perform (ScheduleDefinition.load "s.json") =
    some (.ok definitions, machine) := by
  obtain ⟨loaded, hload⟩ := ScheduleDefinition.exists_perform_load machine "s.json"
  have hresult : (machine.perform (ScheduleDefinition.load "s.json")).map (·.1) =
      some (.ok definitions) := by decide +kernel
  rw [hload] at hresult
  obtain rfl : loaded = .ok definitions := Option.some.inj hresult
  exact hload

theorem node?_staging (n : Nat) (directory : Place) : machine.files.node?
    (emptyStore.stagingName machine.self (Machine.nameOf n) :: directory) = none := by
  have hdot := emptyStore.head?_stagingName machine.self (Machine.nameOf n)
  have hflow : "flow.yaml" ≠ emptyStore.stagingName machine.self (Machine.nameOf n) := fun heq =>
    absurd (heq ▸ hdot) (by decide)
  have hnone : "none.json" ≠ emptyStore.stagingName machine.self (Machine.nameOf n) := fun heq =>
    absurd (heq ▸ hdot) (by decide)
  have hfile : "s.json" ≠ emptyStore.stagingName machine.self (Machine.nameOf n) := fun heq =>
    absurd (heq ▸ hdot) (by decide)
  generalize emptyStore.stagingName machine.self (Machine.nameOf n) = name at hflow hnone hfile
  simp [FileTree.node?, machine, Bindings.find?, hflow, hnone, hfile]

theorem namesFresh_machine : emptyStore.NamesFresh machine := fun n _ directory => by
  rw [FileTree.textAt?, node?_staging, Option.bind_none]

theorem takes_staging (n : Nat) : FileTree.Takes machine.files machine.current
    (emptyStore.staging { machine with names := n })
    [emptyStore.stagingName machine.self (Machine.nameOf n)] := by
  have hplain := emptyStore.isPlain_stagingName machine.self n
  have hpath : emptyStore.staging { machine with names := n } =
      emptyStore.stagingName machine.self (Machine.nameOf n) := by
    have hname : FilePath.fileName? emptyStore.path = some "schedules.json" := by decide
    have hparent : FilePath.parent? emptyStore.path = some "" := by decide
    have hjoin : ∀ name : String, FilePath.join "" name = name := fun name => by
      simp [FilePath.join]
    simp only [staging, FilePath.withFileName, hname, hparent, Option.getD_some, hjoin]
  refine FileTree.takes_of_leadsTo (emptyStore.staging_leadsTo { machine with names := n }) ?_ ?_
  · rw [hpath]
    refine FileTree.locate_eq_ok_iff.mpr ⟨by simpa using hplain.ne_empty, ⟨[], ?_, ?_⟩,
      fun hlast => hplain.no_slash (List.mem_of_getLast? hlast.1)⟩
    · unfold FileTree.origin
      split <;> rfl
    · rw [FilePath.names_of_isPlain hplain, FileTree.follow_cons, if_neg hplain.ne_dots]
      rfl
  · simp [FileTree.kind?, node?_staging]

theorem ready_machine : emptyStore.Ready machine ["schedules.json"] := by
  refine ⟨fun directory hparent => .inl ?_, ⟨by decide, by decide, .inr
    ⟨by decide, by decide, by decide⟩⟩,
    fun n _ => ⟨_, takes_staging n, fun _ => ?_⟩⟩
  · have hempty : emptyStore.path.parent? = some "" := by decide
    obtain rfl := Option.some.inj (hempty.symm.trans hparent)
    rfl
  · rw [FileTree.kind?, node?_staging, Option.map_none]

theorem perform_load_empty : machine.perform emptyStore.load.run = some (.ok [], machine) := by
  have hloaded : emptyStore.loaded (machine.files.read machine.current emptyStore.path) =
      .ok [] := by decide
  rw [Machine.perform_load, hloaded]

theorem canSave_machine : emptyStore.CanSave machine [] := ready_machine.canSave []

theorem exists_save : ∃ saved, machine.perform (emptyStore.save []).run = some (.ok (), saved) :=
  canSave_machine 0 le_rfl

theorem findsIds_machine : Schedule.FindsIds definitions.length machine.names [] := by
  have hnext : ∀ name taken, Schedule.idOf name ∉ taken →
      Schedule.IsNextId Schedule.idAttempts name taken name := fun name taken hfree =>
    ⟨le_rfl, Nat.lt_add_of_pos_right (by decide), fun k hle hlt => absurd hlt hle.not_gt, hfree⟩
  have hother : Schedule.idOf 2 ∉ [Schedule.idOf 0] := by decide
  exact ⟨0, hnext 0 [] List.not_mem_nil, 2, hnext 2 _ hother, trivial⟩

theorem isShown_time : machine.time.IsShown :=
  Timestamp.isShown_of_year (by decide) (by decide) (by decide)

/-- The first definition is prepared from the start, the second one once the store was saved. -/
theorem verdicts_definitions {saved : Machine}
    (hsave : machine.perform (emptyStore.save []).run = some (.ok (), saved)) :
    verdicts "s.json" saved machine definitions =
      [.ok (.ok ⟨some "one", "/flow.yaml", "0 9 * * 1", none, none, none⟩),
        .ok (.ok ⟨some "two", "/schedules.json", "0 9 * * 1", none, none, none⟩)] := by
  have hverdicts : ((machine.perform (emptyStore.save []).run).map fun r =>
      verdicts "s.json" r.2 machine definitions) =
        some [.ok (.ok ⟨some "one", "/flow.yaml", "0 9 * * 1", none, none, none⟩),
          .ok (.ok ⟨some "two", "/schedules.json", "0 9 * * 1", none, none, none⟩)] := by
    decide +kernel
  rw [hsave] at hverdicts
  exact Option.some.inj hverdicts

theorem not_hasOverflow_definitions : ¬ ScheduleDefinition.HasOverflow definitions := by
  unfold ScheduleDefinition.HasOverflow
  decide +kernel

theorem exists_added : ∃ saved result next outcomes,
    machine.perform (emptyStore.save []).run = some (.ok (), saved) ∧
    machine.perform (emptyStore.addFile "s.json").run = some (result, next) ∧
    emptyStore.AddedInTurn machine saved next "s.json" definitions [] result outcomes := by
  obtain ⟨saved, hsave⟩ := exists_save
  obtain ⟨result, next, outcomes, hperform, hadded⟩ :=
    (exists_addedInTurn_or perform_load_definitions perform_load_empty canSave_machine
      namesFresh_machine isShown_time hsave findsIds_machine).resolve_right
        fun hover => not_hasOverflow_definitions hover.2
  exact ⟨saved, result, next, outcomes, hsave, hperform, hadded⟩

end OwnFile

/-- Both definitions are added to a store whose file is missing. A file that is missing and one
without definitions leave everything as it is, and so does a store that is a directory. -/
theorem addFile_in_turn_ownFile :
    (∃ saved outcomes result next,
      OwnFile.machine.perform (OwnFile.emptyStore.addFile "s.json").run = some (result, next) ∧
      OwnFile.emptyStore.AddedInTurn OwnFile.machine saved next "s.json" OwnFile.definitions []
        result outcomes) ∧
    OwnFile.machine.perform (OwnFile.emptyStore.addFile "t.json").run =
      some (.error (.io "t.json" "No such file or directory (os error 2)"), OwnFile.machine) ∧
    OwnFile.machine.perform (ScheduleDefinition.load "none.json") = some (.error (.invalidFile
      "\n  - Schedule file must have at least one schedule (schedules)"), OwnFile.machine) ∧
    OwnFile.machine.perform (ScheduleStore.addFile ⟨"/"⟩ "s.json").run =
      some (.error (.io "/" "Is a directory (os error 21)"), OwnFile.machine) := by
  refine ⟨?_, ?_, ?_, ?_⟩
  · obtain ⟨saved, hsave⟩ := OwnFile.exists_save
    obtain ⟨hright, hends⟩ := (addFile_in_turn OwnFile.emptyStore OwnFile.machine "s.json").2.2.2
      OwnFile.definitions [] saved OwnFile.perform_load_definitions OwnFile.perform_load_empty
      OwnFile.canSave_machine OwnFile.namesFresh_machine OwnFile.isShown_time hsave
    obtain ⟨result, next, hperform⟩ := (hends OwnFile.findsIds_machine).resolve_right
      fun hover => OwnFile.not_hasOverflow_definitions hover.2
    obtain ⟨outcomes, hadded⟩ := hright result next hperform
    exact ⟨saved, outcomes, result, next, hperform, hadded⟩
  · obtain ⟨loaded, hload, hunchanged⟩ :=
      (addFile_in_turn OwnFile.emptyStore OwnFile.machine "t.json").1
    have hresult : (OwnFile.machine.perform (ScheduleDefinition.load "t.json")).map (·.1) =
        some (.error (.io "t.json" "No such file or directory (os error 2)")) := by decide +kernel
    rw [hload] at hresult
    exact hunchanged _ (Option.some.inj hresult)
  · have hdocument : readDocument .json (Json.pretty (.object [])) = .ok (.object []) := by
      rw [readDocument, Json.read?_pretty (.object (n := 0) (by simp)) (by decide)]
      rfl
    exact ((addFile_in_turn OwnFile.emptyStore OwnFile.machine "none.json").2.1 .json
      (Json.pretty (.object [])) (.object []) [] (by decide +kernel) (by decide +kernel) hdocument
      rfl).1
  · have hload : OwnFile.machine.perform (ScheduleStore.load ⟨"/"⟩).run =
        some (.error (.io "/" "Is a directory (os error 21)"), OwnFile.machine) := by
      rw [Machine.perform_load]
      decide +kernel
    obtain ⟨result, hperform, hresult⟩ := ((addFile_in_turn ⟨"/"⟩ OwnFile.machine "s.json").2.2.1
      OwnFile.definitions _ OwnFile.perform_load_definitions hload).resolve_right
        fun hover => OwnFile.not_hasOverflow_definitions hover.2
    have hprepared : OwnFile.first.prepared OwnFile.machine "s.json" =
        .ok (.ok ⟨some "one", "/flow.yaml", "0 9 * * 1", none, none, none⟩) := by decide +kernel
    rw [hperform, hresult ⟨_, List.mem_cons_self, _, hprepared⟩]

/-- The second definition cannot be prepared and is rejected where it stands alone, but it is added
after the first one, since the store's file is there by then. -/
theorem ownFile_added_after_another :
    OwnFile.machine.perform (ScheduleDefinition.load "s.json") =
      some (.ok OwnFile.definitions, OwnFile.machine) ∧
    (∃ saved, OwnFile.machine.perform (OwnFile.emptyStore.save []).run = some (.ok (), saved)) ∧
    OwnFile.machine.perform (OwnFile.second.prepare "s.json") =
      some (.error (.workflowNotFound "schedules.json"), OwnFile.machine) ∧
    OwnFile.machine.perform (OwnFile.emptyStore.addDefinitions "s.json" [OwnFile.second]).run =
      some (.ok (.of [OwnFile.second] [.error (.workflowNotFound "schedules.json")]),
        OwnFile.machine) ∧
    ∃ report next, OwnFile.machine.perform (OwnFile.emptyStore.addFile "s.json").run =
      some (.ok report, next) ∧ report.added.map Schedule.name = [some "one", some "two"] := by
  have hprepared : OwnFile.second.prepared OwnFile.machine "s.json" =
      .ok (.error (.workflowNotFound "schedules.json")) := by decide +kernel
  obtain ⟨saved, result, next, outcomes, hsave, hperform, hadded⟩ := OwnFile.exists_added
  refine ⟨OwnFile.perform_load_definitions, ⟨saved, hsave⟩, ?_, ?_, ?_⟩
  · exact ScheduleDefinition.perform_prepare hprepared
  · exact perform_addDefinitions_singleton hprepared
  · obtain rfl := hadded.report
    have hturn := hadded.inTurn
    rw [OwnFile.verdicts_definitions hsave] at hturn
    obtain ⟨one, rest, ⟨id, ⟨⟩⟩, hrest, rfl⟩ := List.forall₂_cons_left_iff.mp hturn
    obtain ⟨two, others, ⟨id', ⟨⟩⟩, hothers, rfl⟩ := List.forall₂_cons_left_iff.mp hrest
    obtain rfl := List.forall₂_nil_left_iff.mp hothers
    exact ⟨_, next, hperform, rfl⟩

end ScheduleStore

end Runbook
