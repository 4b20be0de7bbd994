import Runbook.Proofs.StoreFiles

/-!
A store that can be written. Once the directory of its file is there, every write succeeds, and all
that changes is what the file keeps. Main statements: if saving succeeds whichever name the staged
file gets, the store is ready; and a store that is ready can be written and is ready again after it.
-/

namespace Runbook

namespace FileTree

variable {t u : FileTree} {current path : FilePath} {place : Place}

/-! ### Kinds -/

/-- The trees have files and directories at the same places. -/
def SameKinds (t u : FileTree) : Prop := ∀ place, t.kind? place = u.kind? place

namespace SameKinds

theorem follow (h : SameKinds t u) (names : List String) :
    t.follow place names = u.follow place names := by
  induction names generalizing place with
  | nil => rfl
  | cons name rest ih => simp only [follow_cons, asDirectory, h place, ih]

theorem locate (h : SameKinds t u) : t.locate current path = u.locate current path := by
  simp only [locate_eq, origin, h.follow, h _]

theorem kindAt? (h : SameKinds t u) : t.kindAt? current path = u.kindAt? current path := by
  simp only [FileTree.kindAt?, h.locate, h _]

theorem canonicalize (h : SameKinds t u) :
    t.canonicalize current path = u.canonicalize current path := by
  have hnode : ∀ place, (t.node? place).isSome = (u.node? place).isSome := fun place => by
    have hkind := congrArg Option.isSome (h place)
    simpa [kind?] using hkind
  simp only [FileTree.canonicalize, h.locate, hnode]

end SameKinds

end FileTree

namespace ScheduleStore

open FileTree (Takes SameKinds kind?_insert kind?_erase)

/-- Every write succeeds: the directory of the store's file is there, a file can be put at the
store's path, and also at that of each staged file yet to be named, where no other file is. -/
structure Ready (store : ScheduleStore) (m : Machine) (target : Place) : Prop where
  directory : ∀ directory, store.path.parent? = some directory →
    directory.isEmpty = true ∨ m.files.isDirectory m.current directory = true
  file : Takes m.files m.current store.path target
  staging : ∀ n, m.names ≤ n → ∃ place,
    Takes m.files m.current (store.staging { m with names := n }) place ∧
      (place ≠ target → m.files.kind? place = none)

variable {store : ScheduleStore} {m : Machine} {target : Place} {schedules : List Schedule}

/-- A store that is ready stays so as long as the same files and directories are there, whatever
names were given out. -/
theorem Ready.of_kinds (h : store.Ready m target) {files : FileTree} {names : Nat}
    (hnames : m.names ≤ names)
    (hkinds : ∀ place, files.kind? place =
      if target = place then some .file else m.files.kind? place) :
    store.Ready { m with files, names } target := by
  have hkeeps : m.files.KeepsDirectories files := by
    intro place hplace
    have hne : target ≠ place := fun heq => h.file.ne_directory (heq ▸ hplace)
    rw [hkinds, if_neg hne, hplace]
  refine ⟨fun directory hparent => (h.directory directory hparent).imp_right hkeeps.isDirectory,
    ⟨h.file.no_slash, hkeeps.locate h.file.no_slash h.file.located, .inl ?_⟩,
    fun n hn => ?_⟩
  · rw [hkinds, if_pos rfl]
  · obtain ⟨place, htakes, hfree⟩ := h.staging n (hnames.trans hn)
    have hlocate := hkeeps.locate htakes.no_slash htakes.located
    have hkind : files.kind? place ≠ some .directory := by
      rw [hkinds]
      split
      · simp
      · exact htakes.ne_directory
    refine ⟨place, FileTree.takes_of_leadsTo (staging_leadsTo store { m with names := n }) hlocate
      hkind, fun hne => ?_⟩
    rw [hkinds, if_neg hne.symm]
    exact hfree hne

theorem Ready.later (h : store.Ready m target) {names : Nat} (hnames : m.names ≤ names) :
    store.Ready { m with names } target :=
  ⟨h.directory, h.file, fun n hn => h.staging n (hnames.trans hn)⟩

theorem Ready.makes (h : store.Ready m target) : store.Makes m m.files := by
  unfold Makes
  cases hparent : store.path.parent? with
  | none => rfl
  | some directory =>
    exact FileTree.makeDirectories_of_isDirectory (h.directory directory hparent) _

/-- A store that is ready can be written, which puts a file at its place and leaves all else. -/
theorem Ready.replaces (h : store.Ready m target) (text : String) :
    ∃ files, store.Replaces m (store.staging m) text files ∧
      ∀ place, files.kind? place = if target = place then some .file else m.files.kind? place := by
  obtain ⟨place, htakes, hfree⟩ := h.staging m.names le_rfl
  obtain ⟨n, hn, hwrite⟩ : ∃ n : FileNode, n.text = some text ∧
      m.files.write m.current m.time (store.staging m) (fun _ => text) =
        .ok (m.files.insert place n) := ⟨_, rfl, htakes.write _⟩
  have hkind : n.kind = .file := by simp [FileNode.kind, hn]
  have hstaged := htakes.spares n
  have hsource := hstaged.directories.locate htakes.no_slash htakes.located
  have hnode : (m.files.insert place n).node? place = some n := by
    rw [FileTree.node?_insert _ htakes.ne_nil, if_pos rfl]
  have htarget : Takes (m.files.insert place n) m.current store.path target := by
    refine ⟨h.file.no_slash, hstaged.directories.locate h.file.no_slash h.file.located, ?_⟩
    rw [kind?_insert _ htakes.ne_nil, kind?_insert _ htakes.ne_nil]
    rcases h.file.kind with hfile | ⟨hne, hnone, hdir⟩
    · left
      split
      · rw [hkind]
      · exact hfile
    · by_cases heq : place = target
      · left
        rw [if_pos heq, hkind]
      · have hparent : place ≠ target.tail := fun hsame => htakes.ne_directory (hsame ▸ hdir)
        exact .inr ⟨hne, by rw [if_neg heq, hnone], by rw [if_neg hparent, hdir]⟩
  refine ⟨_, ⟨_, hwrite, htarget.rename hsource hnode hn⟩, fun other => ?_⟩
  rw [kind?_insert _ h.file.ne_nil, kind?_erase _ htakes.ne_nil, kind?_insert _ htakes.ne_nil,
    hkind]
  by_cases hsame : target = other
  · rw [if_pos hsame, if_pos hsame]
  · rw [if_neg hsame, if_neg hsame]
    by_cases hplace : place = other
    · rw [if_pos hplace, ← hplace, hfree fun heq => hsame (heq ▸ hplace)]
    · rw [if_neg hplace, if_neg hplace]

theorem Ready.writes {made : FileTree} (hmade : store.Makes m made)
    (h : store.Ready { m with files := made } target) (schedules : List Schedule) :
    ∃ files, store.Writes m schedules files ∧
      ∀ place, files.kind? place = if target = place then some .file else made.kind? place := by
  obtain ⟨files, hreplaces, hkinds⟩ := h.replaces (Schedule.fileText schedules)
  exact ⟨files, ⟨made, hmade, hreplaces⟩, hkinds⟩

/-! ### Stores that can be written -/

variable (store) in
/-- Saving succeeds, whichever of the names yet to be given out the staged file gets. -/
def CanSave (m : Machine) (schedules : List Schedule) : Prop := ∀ n, m.names ≤ n →
  ∃ saved, Machine.perform { m with names := n } (store.save schedules).run = some (.ok (), saved)

variable (store) in
/-- No file has one of the names that staged files are yet to get. -/
def NamesFresh (m : Machine) : Prop := ∀ n, m.names ≤ n → ∀ directory,
  m.files.textAt? (store.stagingName m.self (Machine.nameOf n) :: directory) = none

theorem writes_of_perform_save {saved : Machine}
    (h : m.perform (store.save schedules).run = some (.ok (), saved)) :
    ∃ files, store.Writes m schedules files ∧ saved = { m with files, names := m.names + 1 } := by
  have hsave : Program.Keeps Machine.contract (fun next result => result = .ok () →
      ∃ files, store.Writes m schedules files ∧ next = { m with files, names := m.names + 1 }) m
      (store.save schedules).run := by
    refine Machine.keeps_locked (Machine.keeps_writeSchedules store (fun files hwrites _ => ?_) ?_)
    · exact ⟨files, hwrites, rfl⟩
    · rintro - next e ⟨⟩
  obtain ⟨result, next, hperform, hwrites⟩ := hsave.finish
  obtain ⟨rfl, rfl⟩ := Prod.mk.inj (Option.some.inj (h.symm.trans hperform))
  exact hwrites rfl

theorem Ready.canSave (h : store.Ready m target) (schedules : List Schedule) :
    store.CanSave m schedules := by
  intro n hn
  have hlater := h.later hn
  obtain ⟨files, hwrites, -⟩ := hlater.writes hlater.makes schedules
  have hsave : Program.Keeps Machine.contract (fun _ result => result = .ok ())
      { m with names := n } (store.save schedules).run :=
    Machine.keeps_locked (Machine.keeps_writeSchedules store (fun _ _ => rfl)
      fun hnone => absurd hwrites (hnone files))
  obtain ⟨-, saved, hperform, rfl⟩ := hsave.finish
  exact ⟨saved, hperform⟩

theorem takes_of_takes_insert {t : FileTree} {current staging path : FilePath}
    {place target : Place} {n : FileNode} (hplace : Takes t current staging place)
    (hn : n.kind = .file) (h : Takes (t.insert place n) current path target) :
    Takes t current path target := by
  have hback : (t.insert place n).KeepsDirectories t := by
    intro other hother
    rw [kind?_insert _ hplace.ne_nil] at hother
    split at hother
    · rw [hn] at hother
      cases hother
    · exact hother
  have hlocate := hback.locate h.no_slash h.located
  refine ⟨h.no_slash, hlocate, ?_⟩
  by_cases heq : place = target
  · exact heq ▸ hplace.kind
  · rcases h.kind with hfile | ⟨hne, hnone, hdir⟩
    · rw [kind?_insert _ hplace.ne_nil, if_neg heq] at hfile
      exact .inl hfile
    · rw [kind?_insert _ hplace.ne_nil, if_neg heq] at hnone
      exact .inr ⟨hne, hnone, hback _ hdir⟩

/-- A store that can be written is ready once the directory of its file was made. -/
theorem CanSave.ready (h : store.CanSave m schedules) (hfresh : store.NamesFresh m) :
    ∃ made target, store.Makes m made ∧ store.Ready { m with files := made } target := by
  -- what a write under one of the names tells of the files once the directory was made
  have hwrite : ∀ n, m.names ≤ n → ∃ made place target, store.Makes m made ∧
      Takes made m.current (store.staging { m with names := n }) place ∧
      Takes made m.current store.path target := by
    intro n hn
    obtain ⟨saved, hsave⟩ := h n hn
    obtain ⟨files, ⟨made, hmade, staged, hstaged, hrename⟩, -⟩ := writes_of_perform_save hsave
    have hslash := (store.staging_leadsTo { m with names := n }).no_slash
    obtain ⟨place, htakes⟩ := FileTree.takes_of_write hslash hstaged
    obtain rfl := Except.ok.inj ((htakes.write _).symm.trans hstaged)
    obtain ⟨-, -, -, target, -, -, -, htarget, -⟩ := FileTree.exists_of_rename hrename
    exact ⟨made, place, target, hmade, htakes, takes_of_takes_insert htakes rfl htarget⟩
  obtain ⟨made, -, target, hmade, -, htarget⟩ := hwrite m.names le_rfl
  refine ⟨made, target, hmade, fun directory hparent => ?_, htarget, fun n hn => ?_⟩
  · simp only [Makes, hparent] at hmade
    exact FileTree.isDirectory_of_makeDirectories hmade
  · obtain ⟨other, place, -, hother, htakes, -⟩ := hwrite n hn
    obtain rfl : made = other := hmade.unique hother
    refine ⟨place, htakes, fun _ => ?_⟩
    obtain ⟨directory, rfl, -⟩ := FileTree.exists_of_locate_leadsTo
      (store.staging_leadsTo { m with names := n }) htakes.located
    rcases htakes.kind with hfile | ⟨-, hnone, -⟩
    · have htext := (hmade.spares.texts _ (by simp)).trans (hfresh n hn directory)
      simp [FileTree.kind?_eq_file_iff, htext] at hfile
    · exact hnone

end ScheduleStore

end Runbook
