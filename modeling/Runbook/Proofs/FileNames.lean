import Mathlib.Data.List.Basic
import Mathlib.Data.List.TakeWhile
import Runbook.History.Store
import Runbook.Schedule.Store
import Runbook.System.Machine
import Runbook.Proofs.DecimalText
import Runbook.Proofs.FilePlaces

/-!
Names of files: a plain name is the last one of its own path, the last name of a path holds no
slash, and what a store puts into a name leaves it plain.
-/

namespace Runbook

namespace FilePath

variable {name : String}

theorem lead_of_isPlain (h : IsPlain name) : lead name.toList = 0 := by
  unfold lead
  split
  next heq => exact absurd (heq ▸ List.mem_cons_self) h.no_slash
  next heq => exact absurd (String.toList_injective heq) h.ne_dot
  next heq => exact absurd (heq ▸ List.mem_cons_of_mem _ List.mem_cons_self) h.no_slash
  next => rfl

theorem lastName_of_not_mem {s : List Char} (h : '/' ∉ s) : lastName s = (s, []) := by
  have hall : ∀ c ∈ s, decide (c ≠ '/') = true := fun c hc =>
    decide_eq_true fun heq => h (heq ▸ hc)
  simp only [lastName, List.takeWhile_eq_self_iff.mpr hall, List.dropWhile_eq_nil_iff.mpr hall,
    List.drop_nil]

theorem fileName?_of_isPlain (h : IsPlain name) : fileName? name = some name := by
  have hslash : '/' ∉ name.toList.reverse := by simpa using h.no_slash
  have hne : name.toList ≠ [] := by simpa using h.ne_empty
  have hdot : name.toList.reverse ≠ ['.'] := fun heq =>
    h.ne_dot (String.toList_injective (List.reverse_injective heq))
  have hdots : name.toList ≠ ['.', '.'] := fun heq => h.ne_dots (String.toList_injective heq)
  have hpart : namesPart name.toList = name.toList.reverse := by
    simp [namesPart, lead_of_isPlain h, trimNames, lastName_of_not_mem hslash, isNoName, hne, hdot]
  simp [fileName?, hpart, lastName_of_not_mem hslash, hne, hdots]

theorem not_mem_of_fileName? {path : FilePath} (h : fileName? path = some name) :
    '/' ∉ name.toList := by
  unfold fileName? at h
  dsimp only at h
  split at h
  next => cases h
  next =>
    rw [← Option.some.inj h, String.toList_ofList, List.mem_reverse]
    intro hmem
    have hkept := List.mem_takeWhile_imp hmem
    simp at hkept

theorem leadsTo_withFileName (path : FilePath) (h : IsPlain name) :
    (path.withFileName name).LeadsTo name := by
  unfold withFileName
  split <;> exact leadsTo_join _ h

/-- A name without a slash whose last character is no dot. -/
theorem isPlain_of_getLast? {name : String} {c : Char} (hlast : name.toList.getLast? = some c)
    (hc : c ≠ '.') (hslash : '/' ∉ name.toList) : IsPlain name := by
  refine ⟨?_, ?_, ?_, hslash⟩
  · rintro rfl
    cases hlast
  · rintro rfl
    exact hc (Option.some.inj hlast).symm
  · rintro rfl
    exact hc (Option.some.inj hlast).symm

end FilePath

/-! ### Names that are given out -/

namespace Machine

theorem isAlphanum_of_mem_toDigits {n : Nat} {c : Char} (h : c ∈ Nat.toDigits 16 n) :
    c.isAlphanum = true := by
  have hdigit : ∀ k < 16, (Nat.digitChar k).isAlphanum = true := by decide
  induction n using Nat.strongRecOn with
  | ind n ih =>
    rw [Nat.toDigits_eq_if (by decide)] at h
    split at h
    next hn => exact List.mem_singleton.mp h ▸ hdigit n hn
    next hn =>
      rcases List.mem_append.mp h with h | h
      · exact ih (n / 16) (by omega) h
      · exact List.mem_singleton.mp h ▸ hdigit _ (Nat.mod_lt n (by decide))

/-- The names that a machine gives out are made of digits and letters. -/
theorem isAlphanum_of_mem_nameOf {n : Nat} {c : Char} (h : c ∈ (nameOf n).toList) :
    c.isAlphanum = true := by
  rw [nameOf, hexDigits, String.toList_ofList] at h
  rcases List.mem_append.mp h with h | h
  · exact (List.mem_replicate.mp h).2 ▸ by decide
  · exact isAlphanum_of_mem_toDigits h

end Machine

/-! ### Staged files -/

/-- The name of the file that is filled beside a store's file begins with a dot. -/
theorem ScheduleStore.head?_stagingName (store : ScheduleStore) (process : Nat) (unique : String) :
    (store.stagingName process unique).toList.head? = some '.' := by
  have htext : store.stagingName process unique =
      "." ++ (store.path.fileName?.getD "schedules.json" ++
        ("." ++ toString process ++ "." ++ unique ++ ".tmp")) := by
    simp only [stagingName, String.append_assoc]
    rfl
  rw [htext, String.toList_append]
  rfl

theorem ScheduleStore.isPlain_stagingName (store : ScheduleStore) (process n : Nat) :
    FilePath.IsPlain (store.stagingName process (Machine.nameOf n)) := by
  have hname : '/' ∉ (store.path.fileName?.getD "schedules.json").toList := by
    cases hfile : store.path.fileName? with
    | none => simp
    | some name => exact FilePath.not_mem_of_fileName? hfile
  have hprocess : '/' ∉ (toString process).toList := fun h =>
    absurd (isDigit_of_mem_toDigits (by simpa using h)) (by decide)
  have hunique : '/' ∉ (Machine.nameOf n).toList := fun h =>
    absurd (Machine.isAlphanum_of_mem_nameOf h) (by decide)
  have htext : store.stagingName process (Machine.nameOf n) =
      "." ++ store.path.fileName?.getD "schedules.json" ++ "." ++ toString process ++ "." ++
        Machine.nameOf n ++ ".tmp" := rfl
  have hlast : (store.stagingName process (Machine.nameOf n)).toList.getLast? = some 'p' := by
    rw [htext, String.toList_append, List.getLast?_append]
    rfl
  refine FilePath.isPlain_of_getLast? hlast (by decide) ?_
  rw [htext]
  simp only [String.toList_append, List.mem_append, hname, hprocess, hunique]
  decide

/-! ### Files of histories -/

namespace HistoryStore

/-- A bare name is a plain one without a backslash. -/
theorem isBareName_iff {name : String} : isBareName name = true ↔
    FilePath.IsPlain name ∧ '\\' ∉ name.toList := by
  have hmarks : (!name.toList.any fun c => c == '/' || c == '\\') = true ↔
      '/' ∉ name.toList ∧ '\\' ∉ name.toList := by
    simp only [Bool.not_eq_true', List.any_eq_false, Bool.or_eq_true, beq_iff_eq]
    refine ⟨fun h => ⟨fun hmem => h _ hmem (.inl rfl), fun hmem => h _ hmem (.inr rfl)⟩, ?_⟩
    rintro ⟨hslash, hback⟩ c hc (rfl | rfl)
    · exact hslash hc
    · exact hback hc
  rw [isBareName, Bool.and_eq_true, hmarks]
  constructor
  · rintro ⟨hname, hslash, hback⟩
    refine ⟨⟨?_, ?_, ?_, hslash⟩, hback⟩ <;> rintro rfl <;> exact absurd hname (by decide)
  · rintro ⟨hplain, hback⟩
    exact ⟨by simp [FilePath.fileName?_of_isPlain hplain], hplain.no_slash, hback⟩

theorem isHistoryName_fileName (start : Timestamp) (unique : String) :
    isHistoryName (fileName start unique) = true := by
  rw [isHistoryName, Bool.and_eq_true, String.startsWith_string_iff, ← String.endsWith_toSlice,
    String.Slice.endsWith_string_iff, String.copy_toSlice]
  constructor
  · simp [fileName, String.append_assoc]
  · rw [fileName, String.toList_append]
    exact List.suffix_append _ _

variable {unique : String} (hunique : ∀ c ∈ unique.toList, c.isAlphanum = true) (start : Timestamp)
include hunique

/-- Neither a slash nor a backslash stands in the names of these files. -/
theorem not_mem_fileName {c : Char} (hc : c = '/' ∨ c = '\\') :
    c ∉ (fileName start unique).toList := by
  have hother : c.isAlphanum = false ∧ c ≠ '-' ∧ c ≠ '+' ∧ c ≠ '_' := by
    rcases hc with rfl | rfl <;> decide
  have hpadded : ∀ width k, c ∉ (padded width k).toList := fun width k h => by
    have halpha : c.isAlphanum = true := by simp [Char.isAlphanum, isDigit_of_mem_padded h]
    exact absurd halpha (by simp [hother.1])
  have hyear : ∀ year, c ∉ (Timestamp.yearText year).toList := fun year => by
    unfold Timestamp.yearText
    split
    · exact hpadded 4 _
    · split <;> simp [hpadded, hother]
  have hdigits : c ∉ unique.toList.take suffixLength := fun h => by
    have halpha := hunique c (List.mem_of_mem_take h)
    exact absurd halpha (by simp [hother.1])
  have hends : c ∉ nameStart.toList ∧ c ∉ nameEnd.toList := by
    rcases hc with rfl | rfl <;> simp [nameStart, nameEnd]
  simp [fileName, stampText, Timestamp.dateText, Timestamp.clockText, hpadded, hyear, hdigits,
    hends, hother]

theorem isPlain_fileName : FilePath.IsPlain (fileName start unique) := by
  have hlast : (fileName start unique).toList.getLast? = some 'n' := by
    rw [fileName, String.toList_append, List.getLast?_append]
    rfl
  exact FilePath.isPlain_of_getLast? hlast (by decide) (not_mem_fileName hunique start (.inl rfl))

theorem isBareName_fileName : isBareName (fileName start unique) = true :=
  isBareName_iff.mpr
    ⟨isPlain_fileName hunique start, not_mem_fileName hunique start (.inr rfl)⟩

end HistoryStore

end Runbook
