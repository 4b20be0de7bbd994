import Runbook.Proofs.DaemonFiles
import Runbook.Proofs.FileMoves
import Runbook.Proofs.FileNames
import Runbook.Proofs.HistoryFiles
import Runbook.Proofs.HistoryText

/-!
The files of the stores on a machine. Main statements: a history is read back from the file that it
was written to, and a history that was read from any text is read back from its own text; schedules
that are saved are what is loaded afterwards, in their order, and a schedule that was read from any
record is read back from its own.
-/

namespace Runbook

open Program

/-! ### Histories -/

namespace HistoryStore

open Machine (keeps_call keeps_read keeps_write keeps_makeDirectories)

variable (store : HistoryStore) {m : Machine} {h : History}

theorem keeps_write_history {post : Machine → Except HistoryError FilePath → Prop}
    (hok : ∀ next : Machine,
      next.files.read next.current (store.directory.join (fileName h.start (Machine.nameOf m.names))) =
        .ok h.fileText →
      post next (.ok (store.directory.join (fileName h.start (Machine.nameOf m.names)))))
    (herror : ∀ next e, post next (.error e)) :
    Keeps Machine.contract post m (store.write h).run := by
  have hplain := isPlain_fileName (fun c => Machine.isAlphanum_of_mem_nameOf (n := m.names)) h.start
  have hslash := (FilePath.leadsTo_join store.directory hplain).no_slash
  refine keeps_bind.mpr (keeps_makeDirectories (fun files _ => ?_) fun e _ => herror _ _)
  refine keeps_bind.mpr (keeps_call ?_)
  refine keeps_bind.mpr (keeps_write (fun written hwritten => ?_) fun e _ => herror _ _)
  obtain ⟨-, old, hread⟩ := FileTree.write_eq_ok hslash hwritten
  exact hok _ hread

/-- Loading gives the history whose text a file holds, and changes nothing. -/
theorem perform_load {name : String} (hname : isBareName name = true)
    (hread : m.files.read m.current (store.directory.join name) = .ok h.fileText)
    (hstorable : h.IsStorable) : m.perform (store.load name).run = some (.ok h, m) := by
  rw [perform_load_of_isBareName hname, hread]
  simp only [loaded, History.read?_fileText hstorable]

/-- A history whose run has a name, whose times a clock shows and whose numbers are words is read
back from its text. Writing it to a file comes to an end, and if it succeeds, loading that file gives
the history and changes nothing. What any text is read as is read back from its own text. -/
theorem history_read_back :
    (∀ h : History, h.IsStorable → History.read? h.fileText = some h) ∧
    (∀ (store : HistoryStore) (m : Machine) (h : History), h.IsStorable →
      let name := fileName h.start (Machine.nameOf m.names)
      ∃ result next, m.perform (store.write h).run = some (result, next) ∧
        ∀ path, result = .ok path → path = store.directory.join name ∧
          next.files.read next.current path = .ok h.fileText ∧
          next.perform (store.load name).run = some (.ok h, next)) ∧
    ∀ (text : String) (h : History), History.read? text = some h →
      History.read? h.fileText = some h := by
  refine ⟨fun h => History.read?_fileText, fun store m h hstorable => ?_, fun text h hread =>
    History.read?_fileText (History.isStorable_of_read? hread)⟩
  have hname := isBareName_fileName
    (fun c => Machine.isAlphanum_of_mem_nameOf (n := m.names)) h.start
  have hwrite : Keeps Machine.contract (fun next result => ∀ path, result = .ok path →
      path = store.directory.join (fileName h.start (Machine.nameOf m.names)) ∧
        next.files.read next.current path = .ok h.fileText ∧
        next.perform (store.load (fileName h.start (Machine.nameOf m.names))).run =
          some (.ok h, next)) m (store.write h).run := by
    refine keeps_write_history store (fun next hread path hpath => ?_) fun next e path hpath => ?_
    · obtain rfl := Except.ok.inj hpath
      exact ⟨rfl, hread, perform_load store hname hread hstorable⟩
    · cases hpath
  exact hwrite.finish

/-- A history with an event of each kind, and with values at the ends of their ranges. -/
def everyKind : History :=
  let run := "0f8fad5b-d9cb-469f-a165-70867728950e"
  let word := 18446744073709551615
  let occurrences : List Occurrence :=
    [.runStarted (some "Ünïcode \" \\ \n") word, .stepSkipped 0 none, .stepSkipped 0 (some word),
      .stepCompleted 1 none "run" (some (.command "ls\t-l")) (some (-2147483648)) 0,
      .stepCompleted 2 (some 1) "select" (some (.choice "")) none word,
      .stepFailed 3 none "prompt" (some (.prompt "𝄞")) (some 2147483647) "\x01" 7,
      .stepRetried 4 none 4294967295 word, .fallbackStarted 4 (some 0) 1 "true",
      .parallelStarted 5 2, .parallelFinished 5 false, .runFailed "" 1, .runCompleted 0]
  ⟨run, none, ⟨-62167219200, 0⟩, occurrences.map (⟨"id", run, ⟨253402300799, 999999999⟩, ·⟩)⟩

theorem isStorable_everyKind : everyKind.IsStorable := by
  have hrun : RunId.IsName "0f8fad5b-d9cb-469f-a165-70867728950e" :=
    RunId.isName_of_read? (s := "0f8fad5b-d9cb-469f-a165-70867728950e") (by decide +kernel)
  have hfirst : Timestamp.IsShown ⟨-62167219200, 0⟩ :=
    Timestamp.isShown_of_year (by decide) (by decide) (by decide)
  have hlast : Timestamp.IsShown ⟨253402300799, 999999999⟩ :=
    Timestamp.isShown_of_year (by decide) (by decide) (by decide)
  refine ⟨hrun, hfirst, List.forall_mem_map.mpr fun o ho => ⟨hrun, hlast, ?_⟩⟩
  simp only [List.mem_cons, List.not_mem_nil, or_false] at ho
  rcases ho with rfl | rfl | rfl | rfl | rfl | rfl | rfl | rfl | rfl | rfl | rfl | rfl <;>
    simp [Occurrence.FitsWords, Word.count, Word.isSigned]

/-- The history with every kind of event is written to a new directory and read back. A text in
another form is read as a history that is read back from its own text. -/
theorem history_read_back_everyKind :
    let m : Machine := ⟨.empty, "/", ⟨0, 0⟩, 1, [], 0⟩
    let store : HistoryStore := ⟨"/histories"⟩
    let name := "workflow-0000-01-01_00-00-00-0000.json"
    let text := "[\"0F8FAD5BD9CB469FA16570867728950E\", null, \"2024-1-31 8:5:0+01:00\", []]"
    History.read? everyKind.fileText = some everyKind ∧
    (∃ next, m.perform (store.write everyKind).run = some (.ok (store.directory.join name), next) ∧
      next.perform (store.load name).run = some (.ok everyKind, next)) ∧
    ∃ h, History.read? text = some h ∧ History.read? h.fileText = some h := by
  intro m store name text
  refine ⟨history_read_back.1 everyKind isStorable_everyKind, ?_, ?_⟩
  · obtain ⟨result, next, hperform, hresult⟩ :=
      history_read_back.2.1 store m everyKind isStorable_everyKind
    have hpath : (m.perform (store.write everyKind).run).map (·.1) =
        some (.ok (store.directory.join name)) := by decide +kernel
    rw [hperform, Option.map_some, Option.some.injEq] at hpath
    subst hpath
    obtain ⟨-, -, hload⟩ := hresult _ rfl
    have hname : fileName everyKind.start (Machine.nameOf 0) = name := by decide +kernel
    rw [hname] at hload
    exact ⟨next, hperform, hload⟩
  · have hread : (History.read? text).isSome = true := by decide +kernel
    obtain ⟨h, hh⟩ := Option.isSome_iff_exists.mp hread
    exact ⟨h, hh, history_read_back.2.2 text h hh⟩

end HistoryStore

/-! ### Schedules -/

variable {m : Machine} {schedules : List Schedule}

namespace ScheduleStore

open FileTree (Spares)

variable (store : ScheduleStore)

/-- The file that a machine fills next before it takes the place of the store's file. -/
def staging (m : Machine) : FilePath :=
  store.path.withFileName (store.stagingName m.self (Machine.nameOf m.names))

theorem staging_leadsTo (m : Machine) :
    (store.staging m).LeadsTo (store.stagingName m.self (Machine.nameOf m.names)) :=
  FilePath.leadsTo_withFileName _ (store.isPlain_stagingName _ _)

/-- The files once the directory of the store's file was made. -/
def Makes (m : Machine) (made : FileTree) : Prop :=
  match store.path.parent? with
  | some directory =>
    m.files.makeDirectories m.current m.time directory (directory.names.length + 1) = .ok made
  | none => made = m.files

/-- The files once a staged file with a text has taken the place of the store's file. -/
def Replaces (m : Machine) (staging : FilePath) (text : String) (files : FileTree) : Prop :=
  ∃ staged, m.files.write m.current m.time staging (fun _ => text) = .ok staged ∧
    staged.rename m.current staging store.path = .ok files

/-- The files once schedules were written. -/
def Writes (m : Machine) (schedules : List Schedule) (files : FileTree) : Prop :=
  ∃ made, store.Makes m made ∧
    store.Replaces { m with files := made } (store.staging m) (Schedule.fileText schedules) files

variable {store}

theorem Makes.spares {made : FileTree} (h : store.Makes m made) :
    Spares m.current [] m.files made := by
  unfold Makes at h
  split at h
  · exact FileTree.spares_makeDirectories h
  · exact h ▸ .refl

theorem Makes.unique {made other : FileTree} (h : store.Makes m made)
    (hother : store.Makes m other) : made = other := by
  unfold Makes at h hother
  cases hparent : store.path.parent? with
  | none =>
    rw [hparent] at h hother
    exact h.trans hother.symm
  | some directory =>
    rw [hparent] at h hother
    exact Except.ok.inj (h.symm.trans hother)

theorem Writes.unique {files other : FileTree} (h : store.Writes m schedules files)
    (hother : store.Writes m schedules other) : files = other := by
  obtain ⟨made, hmade, staged, hstaged, hrename⟩ := h
  obtain ⟨made', hmade', staged', hstaged', hrename'⟩ := hother
  obtain rfl : made = made' := hmade.unique hmade'
  obtain rfl : staged = staged' := Except.ok.inj (hstaged.symm.trans hstaged')
  exact Except.ok.inj (hrename.symm.trans hrename')

/-- What was written is read, and nothing but the staged file and the store's file has changed. -/
theorem Writes.spares {files : FileTree} (h : store.Writes m schedules files) :
    Spares m.current [store.staging m, store.path] m.files files ∧
      files.read m.current store.path = .ok (Schedule.fileText schedules) := by
  obtain ⟨made, hmade, staged, hstaged, hrename⟩ := h
  have hslash := (store.staging_leadsTo m).no_slash
  obtain ⟨hwrite, -, hread⟩ := FileTree.write_eq_ok hslash hstaged
  obtain ⟨hmove, htext⟩ := FileTree.rename_eq_ok hslash hread hrename
  obtain ⟨-, -, -, place, -, -, -, htakes, -⟩ := FileTree.exists_of_rename hrename
  have hpaths : ∀ path ∈ [store.staging m, store.path], path.toList.getLast? ≠ some '/' := by
    simpa using ⟨hslash, htakes.no_slash⟩
  exact ⟨((hmade.spares.mono (by simp)).trans hpaths (hwrite.mono (by simp))).trans hpaths hmove,
    htext⟩

end ScheduleStore

namespace Machine

open ScheduleProcedure (keeps_request)

variable (store : ScheduleStore)

/-- The staged file takes the place of the store's file unless one of the requests is refused. -/
theorem keeps_replace {staging : FilePath} {text : String}
    {post : Machine → Except ScheduleError Unit → Prop}
    (hok : ∀ files, store.Replaces m staging text files → post { m with files } (.ok ()))
    (herror : (∀ files, ¬ store.Replaces m staging text files) → ∀ next e, post next (.error e)) :
    Keeps contract post m (store.replace staging text).run := by
  refine keeps_bind.mpr (keeps_except_bind
    (keeps_request (keeps_write (fun staged hstaged => ?_) fun e he => ?_)))
  · refine keeps_request (keeps_rename (fun files hfiles => ?_) fun e he => ?_)
    · exact hok files ⟨staged, hstaged, hfiles⟩
    · refine keeps_bind.mpr (keeps_call (herror (fun files hreplaces => ?_) _ _))
      obtain ⟨other, hother, hfiles⟩ := hreplaces
      obtain rfl : staged = other := Except.ok.inj (hstaged.symm.trans hother)
      cases he.symm.trans hfiles
  · refine keeps_bind.mpr (keeps_call (herror (fun files hreplaces => ?_) _ _))
    obtain ⟨other, hother, -⟩ := hreplaces
    cases he.symm.trans hother

theorem keeps_replace_of_read {staging : FilePath} {text before : String}
    (hslash : staging.toList.getLast? ≠ some '/')
    (hread : m.files.read m.current store.path = .ok before)
    {post : Machine → Except ScheduleError Unit → Prop}
    (hok : ∀ files, store.Replaces m staging text files → post { m with files } (.ok ()))
    (herror : (∀ files, ¬store.Replaces m staging text files) → ∀ e, post m (.error e)) :
    Keeps contract post m (store.replace staging text).run := by
  refine keeps_bind.mpr (keeps_except_bind (keeps_request (keeps_write ?_ ?_)))
  · intro staged hstaged
    refine keeps_request (keeps_rename ?_ ?_)
    · intro files hfiles
      exact hok files ⟨staged, hstaged, hfiles⟩
    · -- a file that was just staged can take the place of one that is there
      intro e he
      obtain ⟨place, htakes⟩ := FileTree.takes_of_write hslash hstaged
      have hinsert := Except.ok.inj ((htakes.write fun _ => text).symm.trans hstaged)
      have hkeeps := (htakes.spares ⟨some text, m.time⟩).directories
      obtain ⟨target, htarget, htext⟩ := FileTree.takes_of_read hread
      have hnode : staged.node? place = some ⟨some text, m.time⟩ := by
        rw [← hinsert, FileTree.node?_insert _ htakes.ne_nil, if_pos rfl]
      have hfile : staged.kind? target = some .file := by
        rw [FileTree.kind?_eq_file_iff, FileTree.textAt?, ← hinsert,
          FileTree.node?_insert _ htakes.ne_nil]
        split
        · rfl
        · rw [← FileTree.textAt?, htext, Option.isSome_some]
      rw [hinsert] at hkeeps
      have hput : FileTree.Takes staged m.current store.path target :=
        ⟨htarget.no_slash, hkeeps.locate htarget.no_slash htarget.located, .inl hfile⟩
      have hsource := hkeeps.locate htakes.no_slash htakes.located
      cases he.symm.trans (hput.rename hsource hnode rfl)
  · -- what cannot be written is no file, so that there is nothing to remove
    intro e he
    refine keeps_bind.mpr (keeps_remove ?_ ?_)
    · intro files hfiles
      obtain ⟨place, old, hlocate, htext, -⟩ := FileTree.exists_of_remove hfiles
      have hfile : m.files.kind? place = some .file :=
        FileTree.kind?_eq_file_iff.mpr (Option.isSome_of_eq_some htext)
      have htakes : FileTree.Takes m.files m.current staging place :=
        ⟨hslash, hlocate, .inl hfile⟩
      cases he.symm.trans (htakes.write fun _ => text)
    · intro _ _
      refine herror ?_ _
      rintro files ⟨other, hother, -⟩
      cases he.symm.trans hother

/-- Schedules are written in two steps: the directory of the store's file is made, and the file is
replaced by way of a staged one. -/
theorem keeps_write_of_replace {post : Machine → Except ScheduleError Unit → Prop}
    (hreplace : ∀ made, store.Makes m made →
      Keeps contract post { m with files := made, names := m.names + 1 }
        (store.replace (store.staging m) (Schedule.fileText schedules)).run)
    (hunmade : (∀ made, ¬store.Makes m made) → ∀ e, post m (.error e)) :
    Keeps contract post m (store.write schedules).run := by
  have hstaged : ∀ made, store.Makes m made → Keeps contract post { m with files := made } (do
      let name := store.stagingName (← Procedure.processId) (← Procedure.freshName)
      (store.replace (store.path.withFileName name) (Schedule.fileText schedules)).run) := by
    intro made hmade
    refine keeps_bind.mpr (keeps_processId (keeps_bind.mpr (keeps_call ?_)))
    exact hreplace made hmade
  unfold ScheduleStore.write
  cases hparent : store.path.parent? with
  | none => exact hstaged m.files (by simp [ScheduleStore.Makes, hparent])
  | some directory =>
    refine keeps_except_bind (keeps_request (keeps_makeDirectories ?_ ?_))
    · intro made hmade
      exact hstaged made (by simpa [ScheduleStore.Makes, hparent] using hmade)
    · intro e he
      refine hunmade ?_ _
      intro made hmade
      simp only [ScheduleStore.Makes, hparent] at hmade
      cases he.symm.trans hmade

/-- The file cannot be replaced after its directory was made in the only way that it can be. -/
theorem not_writes {made : FileTree} (hmade : store.Makes m made)
    (hnone : ∀ files, ¬store.Replaces { m with files := made } (store.staging m)
      (Schedule.fileText schedules) files) (files : FileTree) :
    ¬store.Writes m schedules files := by
  rintro ⟨other, hother, hfiles⟩
  obtain rfl : made = other := hmade.unique hother
  exact hnone files hfiles

theorem keeps_writeSchedules {post : Machine → Except ScheduleError Unit → Prop}
    (hok : ∀ files, store.Writes m schedules files →
      post { m with files, names := m.names + 1 } (.ok ()))
    (herror : (∀ files, ¬ store.Writes m schedules files) → ∀ next e, post next (.error e)) :
    Keeps contract post m (store.write schedules).run := by
  refine keeps_write_of_replace store ?_ ?_
  · intro made hmade
    refine keeps_replace store ?_ ?_
    · intro files hfiles
      exact hok files ⟨made, hmade, hfiles⟩
    · intro hnone
      exact herror (not_writes store hmade hnone)
  · intro hunmade
    refine herror ?_ _
    rintro files ⟨made, hmade, -⟩
    exact hunmade made hmade

/-- Where the store's file can be read, it is written, or all that changes is that its directory is
made and a name is given out. -/
theorem keeps_writeSchedules_of_read {before : String}
    (hread : m.files.read m.current store.path = .ok before)
    {post : Machine → Except ScheduleError Unit → Prop}
    (hok : ∀ files, store.Writes m schedules files →
      post { m with files, names := m.names + 1 } (.ok ()))
    (herror : (∀ files, ¬store.Writes m schedules files) → ∀ files names e,
      FileTree.Spares m.current [] m.files files → post { m with files, names } (.error e)) :
    Keeps contract post m (store.write schedules).run := by
  refine keeps_write_of_replace store ?_ ?_
  · intro made hmade
    refine keeps_replace_of_read (m := { m with files := made, names := m.names + 1 }) store
      (store.staging_leadsTo m).no_slash (hmade.spares.read_same hread) ?_ ?_
    · intro files hfiles
      exact hok files ⟨made, hmade, hfiles⟩
    · intro hnone e
      exact herror (not_writes store hmade hnone) made (m.names + 1) e hmade.spares
  · intro hunmade e
    refine herror ?_ m.files m.names e .refl
    rintro files ⟨made, hmade, -⟩
    exact hunmade made hmade

/-- On a machine that runs one procedure at a time the lock changes nothing. -/
theorem keeps_locked {α : Type} {may : Halt → Prop} {p : Procedure α} {post : Machine → α → Prop}
    (h : Keeps (contractUnless may) post m p) :
    Keeps (contractUnless may) post m (Procedure.locked p) :=
  keeps_bind.mpr (Keeps.unless (keeps_call (keeps_bind.mpr (h.mono fun _ _ hpost =>
    keeps_bind.mpr (Keeps.unless (keeps_call hpost))))))

theorem perform_load : m.perform store.load.run =
    some (store.loaded (m.files.read m.current store.path), m) :=
  perform_eq (keeps_load store ⟨rfl, rfl⟩)

end Machine

namespace ScheduleStore

/-- Saving schedules whose times a clock shows comes to an end, and if it succeeds, the same ones
are loaded in the same order. A schedule that any document is read as is read back from the text of
its own document, and so are the schedules of any text. -/
theorem schedules_read_back :
    (∀ (store : ScheduleStore) (m : Machine) (schedules : List Schedule),
      (∀ s ∈ schedules, s.IsTimed) →
        ∃ result next, m.perform (store.save schedules).run = some (result, next) ∧
          (result = .ok () → next.perform store.load.run = some (.ok schedules, next))) ∧
    (∀ (d : Document) (s : Schedule), Schedule.ofDocument? d = some s →
      (Json.read? (Json.pretty s.document)).bind Schedule.ofDocument? = some s) ∧
    ∀ (text : String) (schedules : List Schedule), Schedule.readFile? text = some schedules →
      Schedule.readFile? (Schedule.fileText schedules) = some schedules := by
  refine ⟨fun store m schedules htimed => ?_, fun d s hs => ?_, fun text schedules hread =>
    Schedule.readFile?_fileText (Schedule.isTimed_of_readFile? hread)⟩
  · have hsave : Keeps Machine.contract (fun next result =>
        result = .ok () → next.perform store.load.run = some (.ok schedules, next)) m
        (store.save schedules).run := by
      refine Machine.keeps_locked
        (Machine.keeps_writeSchedules store (fun files hwrites _ => ?_) ?_)
      · have hread : store.loaded (files.read m.current store.path) = .ok schedules := by
          simp only [hwrites.spares.2, loaded, Schedule.readFile?_fileText htimed]
        rw [Machine.perform_load, hread]
      · rintro - next e ⟨⟩
    exact hsave.finish
  · rw [Json.read?_pretty (Schedule.isPlain_document s) (by decide), Option.bind_some]
    exact Schedule.ofDocument?_document (Schedule.isTimed_of_ofDocument? hs)

/-- Schedules with every field and with none of those that may be left out are saved to a new
directory and loaded again. A document in another form is read as a schedule that is read back. -/
theorem schedules_read_back_everyField :
    let m : Machine := ⟨.empty, "/", ⟨0, 0⟩, 1, [], 0⟩
    let store : ScheduleStore := ⟨"/state/schedules.json"⟩
    let schedules : List Schedule :=
      [⟨"a", some "näme \"1\"", "/flow.yaml", "0 2 * * *", true, ⟨253402300799, 999999999⟩,
          some ⟨-62167219200, 1000⟩, some "Europe/Berlin", some false, some "p"⟩,
        ⟨"b", none, "", "", false, ⟨0, 0⟩, none, none, none, none⟩]
    let d : Document := .list [.text "c", .null, .text "/flow.yaml", .text "* * * * *", .bool true,
      .text "2024-1-31 8:5:0+01:00"]
    (∃ next, m.perform (store.save schedules).run = some (.ok (), next) ∧
      next.perform store.load.run = some (.ok schedules, next)) ∧
    (∃ s, Schedule.ofDocument? d = some s ∧
      (Json.read? (Json.pretty s.document)).bind Schedule.ofDocument? = some s) ∧
    Schedule.readFile? (Schedule.fileText []) = some [] := by
  intro m store schedules d
  refine ⟨?_, ?_, schedules_read_back.2.2 "\n" [] (by decide +kernel)⟩
  · have htimed : ∀ s ∈ schedules, s.IsTimed := by
      have hlast : Timestamp.IsShown ⟨253402300799, 999999999⟩ :=
        Timestamp.isShown_of_year (by decide) (by decide) (by decide)
      have hfirst : Timestamp.IsShown ⟨-62167219200, 1000⟩ :=
        Timestamp.isShown_of_year (by decide) (by decide) (by decide)
      have hzero : Timestamp.IsShown ⟨0, 0⟩ :=
        Timestamp.isShown_of_year (by decide) (by decide) (by decide)
      intro s hs
      rcases List.mem_pair.mp hs with rfl | rfl
      · exact ⟨hlast, fun t ht => Option.some.inj ht ▸ hfirst⟩
      · exact ⟨hzero, fun t ht => by cases ht⟩
    obtain ⟨result, next, hperform, hload⟩ := schedules_read_back.1 store m schedules htimed
    have hok : (m.perform (store.save schedules).run).map (·.1) = some (.ok ()) := by decide +kernel
    rw [hperform, Option.map_some, Option.some.injEq] at hok
    subst hok
    exact ⟨next, hperform, hload rfl⟩
  · have hread : (Schedule.ofDocument? d).isSome = true := by decide +kernel
    obtain ⟨s, hs⟩ := Option.isSome_iff_exists.mp hread
    exact ⟨s, hs, schedules_read_back.2.1 d s hs⟩

end ScheduleStore

end Runbook
