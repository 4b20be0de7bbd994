import Mathlib.Data.List.DropRight
import Runbook.Schedule.Definition
import Runbook.Proofs.StoreReadiness

/-!
What is read of a schedule file, and what its definitions are prepared as. Main statements: the gaps
of a file are listed each once and in order; a definition is prepared as it was as long as the files
that are there stay; and the times of what was prepared can be read again.
-/

namespace Runbook

/-! ### Expressions between blanks -/

namespace Cron

def words (s : List Char) : List (List Char) := (s.splitOnP Text.isBlank).filter (!·.isEmpty)

theorem words_append_cons {c : Char} (hc : Text.isBlank c = true) (s t : List Char) :
    words (s ++ c :: t) = words s ++ words t := by
  rw [words, List.splitOnP_append_cons s t hc, List.filter_append]
  rfl

theorem words_dropWhile (s : List Char) : words (s.dropWhile Text.isBlank) = words s := by
  induction s with
  | nil => rfl
  | cons c s ih =>
    by_cases hc : Text.isBlank c = true
    · rw [List.dropWhile_cons_of_pos hc, ih]
      exact (words_append_cons hc [] s).symm
    · rw [List.dropWhile_cons_of_neg hc]

theorem words_rdropWhile (s : List Char) : words (s.rdropWhile Text.isBlank) = words s := by
  induction s using List.reverseRecOn with
  | nil => rfl
  | append_singleton s c ih =>
    by_cases hc : Text.isBlank c = true
    · rw [List.rdropWhile_concat_pos _ _ _ hc, ih, words_append_cons hc]
      exact (List.append_nil _).symm
    · rw [List.rdropWhile_concat_neg _ _ _ hc]

theorem fieldsOf_trimmed (text : String) : fieldsOf (trimmed text) = fieldsOf text := by
  have hwords : words (Text.trim text.toList) = words text.toList :=
    (words_rdropWhile _).trans (words_dropWhile _)
  rw [fieldsOf, trimmed, String.toList_ofList]
  exact congrArg (List.map String.ofList) hwords

theorem read_trimmed (text : String) : read (trimmed text) = read text := by
  simp only [read, normalFields, fieldsOf_trimmed]

end Cron

/-- An expression can be read without the blanks at its ends if it can be read with them. -/
theorem Cron.parse_trimmed {text : String} {cron : Cron} (h : Cron.parse text = .ok (.ok cron)) :
    Cron.parse (trimmed text) = .ok (.ok cron) := by
  unfold Cron.parse at h ⊢
  rw [Cron.read_trimmed]
  rcases hread : Cron.read text with e | e | c
  · simp [hread, bind, Except.bind] at h
  · simp [hread, bind, Except.bind, pure, Except.pure, Except.mapError] at h
  · simpa [hread, bind, Except.bind, pure, Except.pure, Except.mapError] using h

namespace FileTree

variable {t : FileTree} {current path : FilePath} {place : Place}

theorem exists_of_kindAt?_file (h : t.kindAt? current path = some .file) : ∃ place,
    path.toList.getLast? ≠ some '/' ∧ t.locate current path = .ok place ∧
      t.kind? place = some .file := by
  unfold kindAt? at h
  split at h
  next place hlocate =>
    have hslash := (locate_eq_ok_iff.mp hlocate).2.2
    exact ⟨place, fun hlast => hslash ⟨hlast, h⟩, hlocate, h⟩
  next => cases h

theorem canonicalize_of_file (hlocate : t.locate current path = .ok place)
    (hfile : t.kind? place = some .file) : t.canonicalize current path = .ok (pathOf place) := by
  obtain ⟨n, hnode, -⟩ := Option.map_eq_some_iff.mp hfile
  unfold canonicalize
  simp [hlocate, hnode, bind, Except.bind, pure, Except.pure]

end FileTree

namespace ScheduleDefinition

/-! ### Gaps -/

def Gap.position : Gap → Nat
  | .schedules => 0
  | .name index => 3 * index
  | .cron index => 3 * index + 1
  | .workflow index => 3 * index + 2

/-- Something is missing: definitions, or a part of one of them. -/
def Lacks (definitions : List ScheduleDefinition) : Gap → Prop
  | .schedules => definitions = []
  | .name index => ∃ d, definitions[index]? = some d ∧ isBlank d.name = true
  | .cron index => ∃ d, definitions[index]? = some d ∧ isBlank d.cron = true
  | .workflow index => ∃ d, definitions[index]? = some d ∧ isBlank d.workflow = true

theorem mem_gaps_iff {d : ScheduleDefinition} {index : Nat} {g : Gap} : g ∈ d.gaps index ↔
    g = .name index ∧ isBlank d.name = true ∨ g = .cron index ∧ isBlank d.cron = true ∨
      g = .workflow index ∧ isBlank d.workflow = true := by
  have hone : ∀ (b : Bool) (one : Gap), g ∈ (if b then [one] else []) ↔ g = one ∧ b = true :=
    fun b one => by cases b <;> simp
  simp only [gaps, List.mem_append, hone, or_assoc]

theorem mem_allGaps_iff {definitions : List ScheduleDefinition} {g : Gap} :
    g ∈ allGaps definitions ↔ Lacks definitions g := by
  cases definitions with
  | nil => cases g <;> simp [allGaps, Lacks]
  | cons first rest =>
    have hgaps : g ∈ allGaps (first :: rest) ↔
        ∃ (d : ScheduleDefinition) (i : Nat), (first :: rest)[i]? = some d ∧ g ∈ d.gaps i := by
      rw [allGaps, if_neg (by simp), List.mem_flatMap]
      simp only [Prod.exists, List.mem_zipIdx_iff_getElem?]
    rw [hgaps]
    cases g <;> simp [mem_gaps_iff, Lacks]

theorem position_of_mem_gaps {d : ScheduleDefinition} {index : Nat} {g : Gap}
    (h : g ∈ d.gaps index) : 3 * index ≤ g.position ∧ g.position < 3 * (index + 1) := by
  rcases mem_gaps_iff.mp h with ⟨rfl, -⟩ | ⟨rfl, -⟩ | ⟨rfl, -⟩ <;> simp only [Gap.position] <;>
    omega

theorem pairwise_gaps (d : ScheduleDefinition) (index : Nat) :
    (d.gaps index).Pairwise (fun a b => a.position < b.position) := by
  unfold gaps
  cases isBlank d.name <;> cases isBlank d.cron <;> cases isBlank d.workflow <;>
    simp [Gap.position]

theorem pairwise_allGaps (definitions : List ScheduleDefinition) :
    (allGaps definitions).Pairwise (fun a b => a.position < b.position) := by
  have hfrom : ∀ index, List.Pairwise (fun a b => a.position < b.position)
      ((definitions.zipIdx index).flatMap fun entry => entry.1.gaps entry.2) := by
    induction definitions with
    | nil => simp
    | cons d rest ih =>
      intro index
      rw [List.zipIdx_cons, List.flatMap_cons]
      refine List.pairwise_append.mpr ⟨pairwise_gaps d index, ih (index + 1), fun a ha b hb => ?_⟩
      obtain ⟨⟨other, i⟩, hother, hb⟩ := List.mem_flatMap.mp hb
      have hindex : index + 1 ≤ i := (List.mem_zipIdx hother).1
      have hfirst := position_of_mem_gaps ha
      have hnext := position_of_mem_gaps hb
      omega
  unfold allGaps
  split
  · simp
  · exact hfrom 0

/-! ### Files -/

variable {m saved : Machine} {d : ScheduleDefinition} {file : FilePath}

theorem exists_perform_load (m : Machine) (file : FilePath) :
    ∃ loaded, m.perform (load file) = some (loaded, m) := by
  have hload : Program.Keeps Machine.contract (fun next _ => next = m) m (load file) := by
    unfold load
    split
    · rfl
    · refine Program.keeps_bind.mpr (Machine.keeps_read ?_)
      split <;> rfl
  obtain ⟨loaded, next, hperform, rfl⟩ := hload.finish
  exact ⟨loaded, hperform⟩

def gapText (definitions : List ScheduleDefinition) : String :=
  "\n" ++ "\n".intercalate ((allGaps definitions).map Gap.text)

/-- The definitions of a document are loaded if nothing is missing, and otherwise all that is
missing is listed. -/
theorem perform_load_of_document {format : FileFormat} {content : String} {document : Document}
    {definitions : List ScheduleDefinition} (hformat : FileFormat.ofPath? file = .ok format)
    (hread : m.files.read m.current file = .ok content)
    (hdocument : readDocument format content = .ok document)
    (hlist : listOfDocument? document = some definitions) :
    m.perform (load file) = some (if allGaps definitions = [] then .ok definitions else
      .error (.invalidFile (gapText definitions)), m) := by
  have hresult : read format content = if allGaps definitions = [] then .ok definitions else
      .error (.invalidFile (gapText definitions)) := by
    unfold read gapText
    simp only [hdocument, Except.mapError, bind, Except.bind, hlist]
    cases hgaps : allGaps definitions <;> rfl
  rw [← hresult]
  refine Machine.perform_eq ?_
  unfold load
  rw [hformat]
  refine Program.keeps_bind.mpr (Machine.keeps_read ?_)
  rw [hread]
  exact ⟨rfl, rfl⟩

/-! ### Preparing -/

/-- What a definition is prepared as with the files of a machine, if its times are right. -/
def placed (d : ScheduleDefinition) (m : Machine) (file : FilePath) :
    Except ScheduleError NewSchedule :=
  if m.files.kindAt? m.current (d.workflowPath file) = some .file then
    .ok (d.toNew (match m.files.canonicalize m.current (d.workflowPath file) with
      | .ok resolved => resolved
      | .error _ => d.workflowPath file))
  else .error (.workflowNotFound (d.workflowPath file))

def prepared (d : ScheduleDefinition) (m : Machine) (file : FilePath) :
    Computed (Except ScheduleError NewSchedule) :=
  d.checkTimes.map fun times => times.bind fun _ => d.placed m file

/-- The expression of a definition overflows. -/
def HasOverflow (definitions : List ScheduleDefinition) : Prop :=
  ∃ d ∈ definitions, d.checkTimes = .error .overflow

theorem prepared_of_checkTimes_error {e : Overflow} (h : d.checkTimes = .error e) (m : Machine)
    (file : FilePath) : d.prepared m file = .error e := by
  rw [prepared, h]
  rfl

theorem prepared_eq_ok_iff {verdict : Except ScheduleError NewSchedule} :
    d.prepared m file = .ok verdict ↔
      ∃ times, d.checkTimes = .ok times ∧ (times.bind fun _ => d.placed m file) = verdict := by
  unfold prepared
  cases d.checkTimes with
  | error e => exact ⟨nofun, fun ⟨_, h, _⟩ => nomatch h⟩
  | ok times =>
    constructor
    · rintro ⟨⟩
      exact ⟨times, rfl, rfl⟩
    · rintro ⟨_, ⟨⟩, rfl⟩
      rfl

theorem prepared_eq_ok_ok_iff {new : NewSchedule} : d.prepared m file = .ok (.ok new) ↔
    d.checkTimes = .ok (.ok ()) ∧ d.placed m file = .ok new := by
  rw [prepared_eq_ok_iff]
  constructor
  · rintro ⟨times, hcheck, h⟩
    cases times with
    | error e => cases h
    | ok u => exact ⟨hcheck, h⟩
  · rintro ⟨hcheck, h⟩
    exact ⟨.ok (), hcheck, h⟩

theorem keeps_prepare {may : Halt → Prop}
    {post : Machine → Except ScheduleError NewSchedule → Prop}
    (hover : d.checkTimes = .error .overflow → may .overflow)
    (h : ∀ verdict, d.prepared m file = .ok verdict → post m verdict) :
    Program.Keeps (Machine.contractUnless may) post m (d.prepare file) := by
  refine Program.keeps_bind.mpr (Program.keeps_computed (fun times htimes => ?_) hover)
  have h := h _ (prepared_eq_ok_iff.mpr ⟨times, htimes, rfl⟩)
  cases times with
  | error e => exact h
  | ok u =>
    refine Program.Keeps.unless (Program.keeps_bind.mpr (Machine.keeps_kind ?_))
    change post m (d.placed m file) at h
    unfold placed at h
    by_cases hfile : m.files.kindAt? m.current (d.workflowPath file) = some .file
    · rw [if_pos hfile] at h ⊢
      refine Program.keeps_bind.mpr (Program.keeps_bind.mpr (Machine.keeps_canonicalize ?_))
      split
      next resolved hresolved =>
        rw [hresolved] at h
        exact h
      next e hresolved =>
        rw [hresolved] at h
        exact h
    · rw [if_neg hfile] at h ⊢
      exact h

theorem perform_prepare {verdict : Except ScheduleError NewSchedule}
    (h : d.prepared m file = .ok verdict) : m.perform (d.prepare file) = some (verdict, m) := by
  obtain ⟨times, htimes, -⟩ := prepared_eq_ok_iff.mp h
  refine Machine.perform_eq (keeps_prepare (fun hover => ?_) fun other hother => ⟨rfl, ?_⟩)
  · cases htimes.symm.trans hover
  · exact Except.ok.inj (hother.symm.trans h)

theorem prepared_congr (hkinds : FileTree.SameKinds m.files saved.files)
    (hcurrent : m.current = saved.current) (d : ScheduleDefinition) (file : FilePath) :
    d.prepared m file = d.prepared saved file := by
  simp only [prepared, placed, hkinds.kindAt?, hkinds.canonicalize, hcurrent]

/-- What is prepared stays so while the directories and the files that are there stay. -/
theorem prepared_of_kept (hcurrent : saved.current = m.current)
    (hdirectories : m.files.KeepsDirectories saved.files)
    (hfiles : ∀ place, m.files.kind? place = some .file → saved.files.kind? place = some .file)
    {new : NewSchedule} (h : d.prepared m file = .ok (.ok new)) :
    d.prepared saved file = .ok (.ok new) := by
  obtain ⟨hcheck, h⟩ := prepared_eq_ok_ok_iff.mp h
  refine prepared_eq_ok_ok_iff.mpr ⟨hcheck, ?_⟩
  unfold placed at h ⊢
  split at h
  next hkind =>
    obtain ⟨place, hslash, hlocate, hfile⟩ := FileTree.exists_of_kindAt?_file hkind
    have hkept := hdirectories.locate hslash hlocate
    rw [hcurrent, if_pos (by simp only [FileTree.kindAt?, hkept, hfiles place hfile]), ← h,
      FileTree.canonicalize_of_file hlocate hfile,
      FileTree.canonicalize_of_file hkept (hfiles place hfile)]
  next => cases h

/-- What cannot be prepared can be prepared once a file was put at a place only if its workflow is
that file, or if the path of its workflow led nowhere. -/
theorem prepared_error_cases (hcurrent : saved.current = m.current)
    (hdirectories : m.files.KeepsDirectories saved.files) {target : Place}
    (hfiles : ∀ place, saved.files.kind? place = some .file →
      target = place ∨ m.files.kind? place = some .file)
    {e : ScheduleError} (h : d.prepared m file = .ok (.error e)) :
    d.prepared saved file = .ok (.error e) ∨
      saved.files.locate saved.current (d.workflowPath file) = .ok target ∨
      ∃ cause, m.files.locate m.current (d.workflowPath file) = .error cause := by
  obtain ⟨times, hcheck, h⟩ := prepared_eq_ok_iff.mp h
  cases times with
  | error cause =>
    obtain rfl : cause = e := Except.error.inj h
    exact .inl (prepared_eq_ok_iff.mpr ⟨_, hcheck, rfl⟩)
  | ok u =>
    change d.placed m file = .error e at h
    unfold placed at h
    split at h
    next => cases h
    next hkind =>
      by_cases hlater : saved.files.kindAt? saved.current (d.workflowPath file) = some .file
      · obtain ⟨place, hslash, hlocate, hfile⟩ := FileTree.exists_of_kindAt?_file hlater
        refine .inr ?_
        rcases hfiles place hfile with rfl | hbefore
        · exact .inl hlocate
        · refine .inr ?_
          cases hfirst : m.files.locate m.current (d.workflowPath file) with
          | error cause => exact ⟨cause, rfl⟩
          | ok other =>
            have hkept := hdirectories.locate hslash hfirst
            obtain rfl : place = other := Except.ok.inj (hlocate.symm.trans (hcurrent ▸ hkept))
            exact absurd (by simp only [FileTree.kindAt?, hfirst, hbefore]) hkind
      · refine .inl (prepared_eq_ok_iff.mpr ⟨_, hcheck, ?_⟩)
        change d.placed saved file = .error e
        rw [placed, if_neg hlater]
        exact h

theorem exists_of_prepared {new : NewSchedule} (h : d.prepared m file = .ok (.ok new)) :
    d.checkTimes = .ok (.ok ()) ∧ ∃ path, new = d.toNew path := by
  obtain ⟨hcheck, h⟩ := prepared_eq_ok_ok_iff.mp h
  unfold placed at h
  split at h
  next => exact ⟨hcheck, _, (Except.ok.inj h).symm⟩
  next => cases h

theorem times_of_prepared {new : NewSchedule} (h : d.prepared m file = .ok (.ok new)) :
    (∃ cron, Cron.parse new.cron = .ok (.ok cron)) ∧
      ∃ zone, Zone.resolve new.timezone = .ok zone := by
  obtain ⟨hcheck, path, rfl⟩ := exists_of_prepared h
  unfold checkTimes at hcheck
  rcases hcron : Cron.parse d.cron with e | e | cron
  · simp [hcron, bind, Except.bind] at hcheck
  · simp [hcron, bind, Except.bind, pure, Except.pure] at hcheck
  · cases hzone : Zone.resolve d.timezone with
    | error e => simp [hcron, hzone, bind, Except.bind, pure, Except.pure, Except.map] at hcheck
    | ok zone => exact ⟨⟨cron, Cron.parse_trimmed hcron⟩, zone, hzone⟩

end ScheduleDefinition

end Runbook
