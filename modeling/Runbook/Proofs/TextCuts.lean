import Mathlib.Data.List.DropRight
import Mathlib.Data.List.Infix
import Runbook.Text.Blank
import Runbook.Text.Line

/-!
Texts trimmed and cut. Main statements: trimming leaves what stands between the blanks at the two
ends; a cut is made at the first occurrence of what it is made at, and there is one if that occurs.
-/

namespace Runbook.Text

/-! ### Blanks at the ends -/

theorem trimEnd_eq (s : List Char) : trimEnd s = s.rdropWhile isBlank := rfl

/-- Cutting blanks off the end leaves a text that begins with something else as it begins. -/
theorem trimStart_trimEnd {s : List Char} (h : trimStart s = s) :
    trimStart (trimEnd s) = trimEnd s := by
  cases hend : trimEnd s with
  | nil => rfl
  | cons c r =>
    have hleads : c :: r <+: s := hend ▸ trimEnd_eq s ▸ List.rdropWhile_prefix isBlank s
    obtain ⟨rest, rfl⟩ := hleads
    exact trimStart_eq_self (head_trimStart h)

theorem trimEnd_trim (s : List Char) : trimEnd (trim s) = trim s :=
  List.rdropWhile_idempotent isBlank (trimStart s)

theorem trim_trim (s : List Char) : trim (trim s) = trim s := by
  have hstart : trimStart (trim s) = trim s :=
    trimStart_trimEnd (List.dropWhile_idempotent isBlank s)
  rw [trim, hstart, trimEnd_trim]

theorem trimEnd_append {r : List Char} (hr : ∀ c ∈ r, isBlank c = true) (s : List Char) :
    trimEnd (s ++ r) = trimEnd s := by
  have hblank : ∀ c ∈ r.reverse, isBlank c = true := fun c hc => hr c (List.mem_reverse.mp hc)
  rw [trimEnd, List.reverse_append, List.dropWhile_append_of_pos hblank, ← trimEnd]

/-- Blanks around a text are trimmed off, whatever blanks it has itself. -/
theorem trim_append {l r : List Char} (hl : ∀ c ∈ l, isBlank c = true)
    (hr : ∀ c ∈ r, isBlank c = true) (s : List Char) : trim (l ++ s ++ r) = trim s := by
  have hr' : r.dropWhile isBlank = [] := List.dropWhile_eq_nil_iff.mpr hr
  rw [trim, trimStart, List.append_assoc, List.dropWhile_append_of_pos hl, List.dropWhile_append,
    hr', trim, trimStart]
  split
  · rename_i h
    rw [List.isEmpty_iff.mp h]
  · exact trimEnd_append hr _

theorem trim_eq_self {s : List Char} (hfirst : ∀ c, s.head? = some c → isBlank c = false)
    (hlast : ∀ c, s.getLast? = some c → isBlank c = false) : trim s = s := by
  have hstart : trimStart s = s := by
    cases s with
    | nil => rfl
    | cons c s => exact trimStart_eq_self (hfirst c rfl)
  rw [trim, hstart, trimEnd_eq, List.rdropWhile_eq_self_iff]
  intro hne
  simp [hlast _ (List.getLast?_eq_some_getLast hne)]

theorem isBlank_of_head?_trim {s : List Char} {c : Char} (h : (trim s).head? = some c) :
    isBlank c = false := by
  obtain ⟨r, hr⟩ := List.head?_eq_some_iff.mp h
  have hleads : trim s <+: trimStart s := List.rdropWhile_prefix isBlank (trimStart s)
  obtain ⟨t, ht⟩ := hleads
  exact head_trimStart (r := r ++ t) (by rw [← ht, hr]; rfl)

theorem trim_infix (s : List Char) : trim s <:+: s :=
  calc trim s <:+: trimStart s := (List.rdropWhile_prefix isBlank (trimStart s)).isInfix
    _ <:+: s := (List.dropWhile_suffix isBlank).isInfix

/-! ### First occurrences -/

/-- A text falls into two parts around the first occurrence of a separator. -/
structure SplitsAt (sep s before after : List Char) : Prop where
  parts : s = before ++ sep ++ after
  first : ∀ before' after', s = before' ++ sep ++ after' → before.length ≤ before'.length

variable {sep s before after : List Char}

theorem SplitsAt.unique {before' after' : List Char} (h : SplitsAt sep s before after)
    (h' : SplitsAt sep s before' after') : before = before' ∧ after = after' := by
  have hlength : before.length = before'.length :=
    Nat.le_antisymm (h.first _ _ h'.parts) (h'.first _ _ h.parts)
  have hparts : before ++ (sep ++ after) = before' ++ (sep ++ after') := by
    rw [← List.append_assoc, ← List.append_assoc, ← h.parts, ← h'.parts]
  obtain ⟨hbefore, hrest⟩ := List.append_inj hparts hlength
  exact ⟨hbefore, List.append_cancel_left hrest⟩

theorem splitsAt_of_cut (h : cut sep s = some (before, after)) : SplitsAt sep s before after := by
  refine ⟨append_of_cut h, ?_⟩
  induction s generalizing before with
  | nil =>
    simp only [cut] at h
    split at h <;> simp_all
  | cons c s ih =>
    simp only [cut] at h
    split at h
    · obtain ⟨rfl, -⟩ : [] = before ∧ _ := by simpa using h
      exact fun _ _ _ => Nat.zero_le _
    · rename_i hleads
      obtain ⟨⟨first, rest⟩, hfirst, heq⟩ := Option.map_eq_some_iff.mp h
      obtain ⟨rfl, rfl⟩ := Prod.mk.inj heq
      intro before' after' hparts
      cases before' with
      | nil => exact absurd (List.isPrefixOf_iff_prefix.mpr ⟨after', hparts.symm⟩) hleads
      | cons d before' =>
        obtain ⟨rfl, hs⟩ := List.cons.inj hparts
        exact Nat.succ_le_succ (ih hfirst before' after' hs)

theorem not_infix_of_cut_eq_none (h : cut sep s = none) : ¬ sep <:+: s := by
  induction s with
  | nil =>
    simp only [cut] at h
    split at h <;> simp_all
  | cons c s ih =>
    simp only [cut] at h
    split at h
    · cases h
    · rename_i hleads
      rw [List.infix_cons_iff, ← List.isPrefixOf_iff_prefix]
      exact not_or.mpr ⟨hleads, ih (Option.map_eq_none_iff.mp h)⟩

theorem SplitsAt.isInfix (h : SplitsAt sep s before after) : sep <:+: s :=
  ⟨before, after, h.parts.symm⟩

theorem cut_eq_none_iff : cut sep s = none ↔ ¬ sep <:+: s := by
  refine ⟨not_infix_of_cut_eq_none, fun h => ?_⟩
  cases hcut : cut sep s with
  | none => rfl
  | some parts => exact absurd (splitsAt_of_cut hcut).isInfix h

/-- A cut is made at the first occurrence. -/
theorem cut_eq_some_iff : cut sep s = some (before, after) ↔ SplitsAt sep s before after := by
  refine ⟨splitsAt_of_cut, fun h => ?_⟩
  cases hcut : cut sep s with
  | none => exact absurd h.isInfix (not_infix_of_cut_eq_none hcut)
  | some parts =>
    obtain ⟨hbefore, hafter⟩ := (splitsAt_of_cut hcut).unique h
    rw [← hbefore, ← hafter]

theorem SplitsAt.not_isInfix (h : SplitsAt sep s before after) (hsep : sep ≠ []) :
    ¬ sep <:+: before := by
  rintro ⟨front, back, hbefore⟩
  have hlength := h.first front (back ++ sep ++ after) (by rw [h.parts, ← hbefore]; simp)
  have hpos := List.length_pos_of_ne_nil hsep
  rw [← hbefore, List.length_append, List.length_append] at hlength
  omega

theorem splitsAt_singleton_iff {c : Char} :
    SplitsAt [c] s before after ↔ s = before ++ c :: after ∧ c ∉ before := by
  constructor
  · intro h
    refine ⟨by simpa using h.parts, fun hc => ?_⟩
    exact h.not_isInfix (List.cons_ne_nil c []) ((List.singleton_infix_iff c before).mpr hc)
  · rintro ⟨rfl, hc⟩
    refine ⟨by simp, fun before' after' hparts => ?_⟩
    rw [List.append_assoc, List.append_eq_append_iff] at hparts
    rcases hparts with ⟨between, rfl, _⟩ | ⟨between, rfl, hrest⟩
    · simp
    · cases between with
      | nil => simp
      | cons d between =>
        obtain ⟨rfl, -⟩ := List.cons.inj hrest
        simp at hc

/-- A cut at one character leaves a text without it in front. -/
theorem cut_singleton_eq_some_iff {c : Char} :
    cut [c] s = some (before, after) ↔ s = before ++ c :: after ∧ c ∉ before :=
  cut_eq_some_iff.trans splitsAt_singleton_iff

end Runbook.Text
