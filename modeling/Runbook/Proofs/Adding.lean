import Runbook.Proofs.Preparation
import Runbook.Schedule.Adding

/-!
Adding the definitions of a schedule file to a store. Main statement: in a store that is ready each
definition is added or rejected in its turn, by what it is prepared as with the files that are there
then, and what was added follows what was there before.
-/

namespace Runbook

open Program

/-! ### Ids -/

namespace Schedule

def idOf (name : Nat) : String := String.ofList ((Machine.nameOf name).toList.take idLength)

/-- The first of the names from one on that begins with a free id, found in so many attempts. -/
structure IsNextId (attempts names : Nat) (taken : List String) (name : Nat) : Prop where
  least : names ≤ name
  inTime : name < names + attempts
  others : ∀ k, names ≤ k → k < name → idOf k ∈ taken
  free : idOf name ∉ taken

theorem IsNextId.unique {attempts names name other : Nat} {taken : List String}
    (h : IsNextId attempts names taken name) (hother : IsNextId attempts names taken other) :
    name = other := by
  rcases Nat.lt_trichotomy name other with hlt | heq | hgt
  · exact absurd (hother.others name h.least hlt) h.free
  · exact heq
  · exact absurd (h.others other hother.least hgt) hother.free

theorem isNextId_succ_iff {attempts names name : Nat} {taken : List String}
    (htaken : idOf names ∈ taken) : IsNextId (attempts + 1) names taken name ↔
      IsNextId attempts (names + 1) taken name := by
  constructor
  · intro h
    have hne : names ≠ name := fun heq => h.free (heq ▸ htaken)
    have hlt : names < name := lt_of_le_of_ne h.least hne
    exact ⟨hlt, by have := h.inTime; omega, fun k hk => h.others k (by omega), h.free⟩
  · intro h
    refine ⟨Nat.le_of_succ_le h.least, by have := h.inTime; omega, fun k hk hlt => ?_, h.free⟩
    rcases hk.eq_or_lt with rfl | hlater
    · exact htaken
    · exact h.others k hlater hlt

/-- Ids for so many schedules are found one after the other among the names that are given out. The
name after that of an id goes to the staged file. -/
def FindsIds : Nat → Nat → List String → Prop
  | 0, _, _ => True
  | count + 1, names, taken => ∃ name, IsNextId idAttempts names taken name ∧
    FindsIds count (name + 2) (taken ++ [idOf name])

theorem FindsIds.pred {count names : Nat} {taken : List String}
    (h : FindsIds (count + 1) names taken) : FindsIds count names taken := by
  induction count generalizing names taken with
  | zero => trivial
  | succ count ih =>
    obtain ⟨name, hname, hrest⟩ := h
    exact ⟨name, hname, ih hrest⟩

/-- The first free id is given, if there is one among those that are tried. -/
theorem keeps_freshId {may : Halt → Prop} {schedules : List Schedule} {attempts : Nat} {m : Machine}
    (hids : may .bound ∨ ∃ name, IsNextId attempts m.names (schedules.map Schedule.id) name)
    {post : Machine → String → Prop}
    (hpost : ∀ name, IsNextId attempts m.names (schedules.map Schedule.id) name →
      post { m with names := name + 1 } (idOf name)) :
    Keeps (Machine.contractUnless may) post m (freshId schedules attempts) := by
  have hany : ∀ id : String, schedules.any (·.id == id) = true ↔ id ∈ schedules.map Schedule.id :=
    fun id => by simp
  induction attempts generalizing m with
  | zero =>
    rcases hids with hmay | ⟨name, hname⟩
    · exact hmay
    · exact absurd hname.inTime (by have := hname.least; omega)
  | succ attempts ih =>
    refine keeps_bind.mpr (Keeps.unless (Machine.keeps_call ?_))
    change Keeps (Machine.contractUnless may) post { m with names := m.names + 1 }
      (if schedules.any (·.id == idOf m.names) = true then freshId schedules attempts
        else pure (idOf m.names))
    by_cases htaken : idOf m.names ∈ schedules.map Schedule.id
    · rw [if_pos ((hany _).mpr htaken)]
      exact ih (hids.imp_right (Exists.imp fun name => (isNextId_succ_iff htaken).mp))
        fun name hname => hpost name ((isNextId_succ_iff htaken).mpr hname)
    · rw [if_neg (mt (hany _).mp htaken)]
      exact hpost m.names ⟨le_rfl, by omega, fun k hk hlt => absurd hlt (by omega), htaken⟩

end Schedule

/-- A schedule is the one that a definition stands for, enabled and not yet run. -/
structure ScheduleDefinition.Describes (d : ScheduleDefinition) (s : Schedule) : Prop where
  name : s.name = some (trimmed d.name)
  cron : s.cron = trimmed d.cron
  timezone : s.timezone = d.timezone
  silent : s.silent = d.silent
  profile : s.profile = d.profile
  enabled : s.enabled = true
  lastRun : s.lastRun = none

def AddReport.of (definitions : List ScheduleDefinition)
    (outcomes : List (Except ScheduleError Schedule)) : AddReport where
  added := outcomes.filterMap Except.toOption
  rejected := (definitions.zip outcomes).filterMap fun (d, outcome) =>
    match outcome with
    | .ok _ => none
    | .error e => some (d.name, e.message)

def AddReport.join (report other : AddReport) : AddReport :=
  ⟨report.added ++ other.added, report.rejected ++ other.rejected⟩

theorem AddReport.length_of {definitions : List ScheduleDefinition}
    {outcomes : List (Except ScheduleError Schedule)} (h : definitions.length = outcomes.length) :
    (AddReport.of definitions outcomes).added.length +
      (AddReport.of definitions outcomes).rejected.length = definitions.length := by
  induction definitions generalizing outcomes with
  | nil =>
    obtain rfl := List.length_eq_zero_iff.mp h.symm
    rfl
  | cons d rest ih =>
    cases outcomes with
    | nil => cases h
    | cons outcome others =>
      have hrest := ih (Nat.succ.inj h)
      cases outcome with
      | ok s =>
        change ((AddReport.of rest others).added.length + 1) +
          (AddReport.of rest others).rejected.length = rest.length + 1
        omega
      | error e =>
        change (AddReport.of rest others).added.length +
          ((AddReport.of rest others).rejected.length + 1) = rest.length + 1
        omega

namespace ScheduleStore

open Machine (keeps_locked keeps_now keeps_writeSchedules)
open FileTree (SameKinds)

variable {store : ScheduleStore} {m now saved : Machine} {made : FileTree} {target : Place}
  {stored schedules : List Schedule} {file : FilePath}

/-! ### Adding one schedule -/

theorem loaded_fileText {schedules : List Schedule} (h : ∀ s ∈ schedules, s.IsTimed) :
    store.loaded (.ok (Schedule.fileText schedules)) = .ok schedules := by
  simp only [loaded, Schedule.readFile?_fileText h]

variable (store) in
/-- Schedules can be added to those that are stored: the store is ready once its directory was made,
and its schedules can be read again. Ids are found for so many, unless the search may go on. -/
structure CanAdd (may : Halt → Prop) (count : Nat) (m : Machine) (made : FileTree) (target : Place)
    (stored : List Schedule) : Prop where
  makes : store.Makes m made
  ready : store.Ready { m with files := made } target
  loaded : store.loaded (m.files.read m.current store.path) = .ok stored
  timed : ∀ s ∈ stored, s.IsTimed
  shown : m.time.IsShown
  ids : may .bound ∨ Schedule.FindsIds count m.names (stored.map Schedule.id)

theorem CanAdd.pred {may : Halt → Prop} {count : Nat}
    (h : store.CanAdd may (count + 1) m made target stored) :
    store.CanAdd may count m made target stored :=
  { h with ids := h.ids.imp_right Schedule.FindsIds.pred }

theorem keeps_add {may : Halt → Prop} {count : Nat} (new : NewSchedule)
    (h : store.CanAdd may (count + 1) m made target stored)
    {post : Machine → Except ScheduleError Schedule → Prop}
    (hpost : ∀ id files names,
      (∀ place, files.kind? place = if target = place then some .file else made.kind? place) →
      store.CanAdd may count { m with files, names } files target
        (stored ++ [new.toSchedule id m.time]) →
      post { m with files, names } (.ok (new.toSchedule id m.time))) :
    Keeps (Machine.contractUnless may) post m (store.add new).run := by
  refine keeps_locked (keeps_except_bind (Machine.keeps_load store ?_).unless)
  rw [h.loaded]
  refine keeps_except_bind (keeps_lift (Schedule.keeps_freshId (h.ids.imp_right fun hids =>
    hids.imp fun name hname => hname.1) fun name hname => ?_))
  have hready : store.Ready { m with files := made, names := name + 1 } target :=
    h.ready.later (Nat.le_succ_of_le hname.least)
  obtain ⟨files, hwrites, hkinds⟩ := Ready.writes (m := { m with names := name + 1 }) h.makes hready
    (stored ++ [new.toSchedule (Schedule.idOf name) m.time])
  have htimed : ∀ s ∈ stored ++ [new.toSchedule (Schedule.idOf name) m.time], s.IsTimed := by
    intro s hs
    rcases List.mem_append.mp hs with hs | hs
    · exact h.timed s hs
    · rw [List.mem_singleton.mp hs]
      exact ⟨h.shown, by rintro - ⟨⟩⟩
  have hafter := hready.of_kinds (Nat.le_succ _) hkinds
  have hcan : store.CanAdd may count { m with files, names := name + 2 } files target
      (stored ++ [new.toSchedule (Schedule.idOf name) m.time]) := by
    refine ⟨hafter.makes, hafter, ?_, htimed, h.shown, h.ids.imp_right fun hids => ?_⟩
    · exact (congrArg store.loaded hwrites.spares.2).trans (loaded_fileText htimed)
    · obtain ⟨other, hother, hrest⟩ := hids
      obtain rfl : name = other := hname.unique hother
      rw [List.map_append]
      exact hrest
  refine keeps_except_bind (keeps_lift (keeps_now ?_).unless)
  refine keeps_except_bind (keeps_writeSchedules store (fun other hother => ?_)
    fun hnone => ?_).unless
  · obtain rfl : files = other := hwrites.unique hother
    exact hpost _ files _ hkinds hcan
  · exact absurd hwrites (hnone files)

/-! ### Adding definitions -/

def isPrepared : Computed (Except ScheduleError NewSchedule) → Bool
  | .ok (.ok _) => true
  | _ => false

/-- What definitions are prepared as in turn: as on one machine until one of them is added, and as
on the machine on which the store was saved after that. -/
def verdicts (file : FilePath) (saved : Machine) :
    Machine → List ScheduleDefinition → List (Computed (Except ScheduleError NewSchedule))
  | _, [] => []
  | seen, d :: rest => d.prepared seen file ::
    verdicts file saved (if isPrepared (d.prepared seen file) then saved else seen) rest

/-- What becomes of a definition that was prepared: it is rejected with the error, or added under
some id. -/
def Settles (time : Timestamp) (verdict : Computed (Except ScheduleError NewSchedule))
    (outcome : Except ScheduleError Schedule) : Prop :=
  ∃ id, verdict.map (Except.map (·.toSchedule id time)) = .ok outcome

theorem keeps_addDefinitions {may : Halt → Prop} {now seen : Machine}
    {definitions : List ScheduleDefinition}
    (hover : ∀ d ∈ definitions, d.checkTimes = .error .overflow → may .overflow)
    (h : store.CanAdd may definitions.length now made target stored)
    (hsame : SameKinds now.files seen.files) (hseen : now.current = seen.current)
    (hsaved : ∀ place, saved.files.kind? place =
      if target = place then some .file else made.kind? place)
    (hcurrent : now.current = saved.current)
    {post : Machine → Except ScheduleError AddReport → Prop}
    (hpost : ∀ outcomes next,
      List.Forall₂ (Settles now.time) (verdicts file saved seen definitions) outcomes →
      store.loaded (next.files.read next.current store.path) =
        .ok (stored ++ (AddReport.of definitions outcomes).added) →
      post next (.ok (.of definitions outcomes))) :
    Keeps (Machine.contractUnless may) post now (store.addDefinitions file definitions).run := by
  induction definitions generalizing now seen made stored post with
  | nil =>
    exact hpost [] now .nil (h.loaded.trans (by simp [AddReport.of]))
  | cons d rest ih =>
    obtain ⟨hfirst, hrest⟩ := List.forall_mem_cons.mp hover
    refine keeps_except_bind (keeps_lift (ScheduleDefinition.keeps_prepare hfirst
      fun verdict hverdict => ?_))
    rw [ScheduleDefinition.prepared_congr hsame hseen] at hverdict
    cases verdict with
    | error e =>
      refine keeps_except_bind (ih hrest h.pred hsame hseen hsaved hcurrent
        fun outcomes next hout hload => ?_)
      refine hpost (.error e :: outcomes) next ?_ hload
      rw [verdicts, hverdict]
      exact .cons ⟨"", rfl⟩ hout
    | ok new =>
      refine keeps_except_bind (keeps_add new h fun id files names hkinds hcan => ?_)
      have hfiles : SameKinds files saved.files := fun place =>
        (hkinds place).trans (hsaved place).symm
      have hstays : ∀ place, saved.files.kind? place =
          if target = place then some .file else files.kind? place := by
        intro place
        rw [hsaved, hkinds]
        split <;> rfl
      refine keeps_except_bind (ih hrest hcan hfiles hcurrent hstays hcurrent
        fun outcomes next hout hload => ?_)
      refine hpost (.ok (new.toSchedule id now.time) :: outcomes) next ?_ ?_
      · rw [verdicts, hverdict]
        exact .cons ⟨id, rfl⟩ hout
      · rw [hload, List.append_assoc]
        rfl

theorem keeps_addDefinitions_unreadable {may : Halt → Prop} {e : ScheduleError}
    (hload : store.loaded (m.files.read m.current store.path) = .error e)
    {definitions : List ScheduleDefinition} {post : Machine → Except ScheduleError AddReport → Prop}
    (hover : ∀ d ∈ definitions, d.checkTimes = .error .overflow → may .overflow)
    (herror : post m (.error e))
    (hok : (∀ d ∈ definitions, ∃ cause, d.prepared m file = .ok (.error cause)) →
      ∀ report, post m (.ok report)) :
    Keeps (Machine.contractUnless may) post m (store.addDefinitions file definitions).run := by
  induction definitions generalizing post with
  | nil => exact hok (by simp) _
  | cons d rest ih =>
    obtain ⟨hfirst, hothers⟩ := List.forall_mem_cons.mp hover
    refine keeps_except_bind (keeps_lift (ScheduleDefinition.keeps_prepare hfirst
      fun verdict hverdict => ?_))
    cases verdict with
    | error cause =>
      refine keeps_except_bind (ih hothers herror fun hrest report => hok ?_ _)
      exact List.forall_mem_cons.mpr ⟨⟨cause, hverdict⟩, hrest⟩
    | ok new =>
      refine keeps_except_bind
        (keeps_locked (keeps_except_bind (Machine.keeps_load store ?_).unless))
      rw [hload]
      exact herror

/-- A definition that stands alone and cannot be prepared is rejected, and nothing changes. -/
theorem perform_addDefinitions_singleton {d : ScheduleDefinition} {e : ScheduleError}
    (h : d.prepared m file = .ok (.error e)) : m.perform (store.addDefinitions file [d]).run =
      some (.ok (.of [d] [.error e]), m) := by
  obtain ⟨times, htimes, -⟩ := ScheduleDefinition.prepared_eq_ok_iff.mp h
  refine Machine.perform_eq (keeps_except_bind (keeps_lift (ScheduleDefinition.keeps_prepare
    (fun hover => ?_) fun verdict hverdict => ?_)))
  · cases htimes.symm.trans hover
  · obtain rfl := Except.ok.inj (h.symm.trans hverdict)
    exact ⟨rfl, rfl⟩

/-! ### Adding in parts -/

theorem addDefinitions_append (store : ScheduleStore) (file : FilePath)
    (front back : List ScheduleDefinition) : store.addDefinitions file (front ++ back) = do
      let before ← store.addDefinitions file front
      let after ← store.addDefinitions file back
      return before.join after := by
  induction front with
  | nil => simp [addDefinitions, AddReport.join]
  | cons d front ih =>
    simp only [List.cons_append, addDefinitions, bind_assoc]
    congr 1
    funext prepared
    cases prepared with
    | error e => simp [ih, AddReport.join]
    | ok new => simp [ih, AddReport.join]

/-- A definition whose expression or zone cannot be read is reported in its place, and what becomes
of the others is what would become of them without it. -/
theorem addDefinitions_refused (store : ScheduleStore) (file : FilePath) {d : ScheduleDefinition}
    {e : ScheduleError} (h : d.checkTimes = .ok (.error e)) (front back : List ScheduleDefinition) :
    store.addDefinitions file (front ++ d :: back) = do
      let before ← store.addDefinitions file front
      let after ← store.addDefinitions file back
      return before.join { after with rejected := (d.name, e.message) :: after.rejected } := by
  have hrefused : store.addDefinitions file (d :: back) = do
      let after ← store.addDefinitions file back
      return { after with rejected := (d.name, e.message) :: after.rejected } := by
    have hprepare : d.prepare file = pure (.error e) := by
      unfold ScheduleDefinition.prepare
      rw [h]
      rfl
    simp [addDefinitions, hprepare]
  rw [addDefinitions_append, hrefused]
  simp only [bind_assoc, pure_bind]

/-- A definition whose expression overflows is not reported, and those after it are not added. -/
theorem addDefinitions_halted (store : ScheduleStore) (file : FilePath) {d : ScheduleDefinition}
    (h : d.checkTimes = .error .overflow) (front back : List ScheduleDefinition) :
    store.addDefinitions file (front ++ d :: back) =
      (do let _ ← store.addDefinitions file front; ExceptT.mk (.halted .overflow)) := by
  have hhalted : store.addDefinitions file (d :: back) = ExceptT.mk (.halted .overflow) := by
    unfold addDefinitions ScheduleDefinition.prepare
    rw [h]
    rfl
  rw [addDefinitions_append, hhalted]
  congr 1

end ScheduleStore

end Runbook
