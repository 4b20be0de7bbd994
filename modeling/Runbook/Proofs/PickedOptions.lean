import Runbook.Console.Interaction
import Runbook.Proofs.DecimalText

/-!
Options that a typed answer picks. Numbers and names share one space of answers: a number of a place
in the list means the option there, and any other answer the first option of that name. Main
statement: an answer picks what it means, unless it is the name of an option and a number below the
bound of words that is no place in the list; such an answer picks nothing.
-/

namespace Runbook.Console

open Numeral (Spells natural?_eq_some_iff)

/-! ### What an answer means -/

variable {options : List ChoiceOption} {text : List Char}

/-- An answer is the number of a place in the list, counted from one. -/
def NumbersPlace (options : List ChoiceOption) (text : List Char) : Prop :=
  ∃ i < options.length, Spells text (i + 1)

/-- The option that an answer without blanks around it means. -/
inductive Means (options : List ChoiceOption) (text : List Char) : Option ChoiceOption → Prop where
  | place {i : Nat} {o : ChoiceOption} (hnumber : Spells text (i + 1))
      (hplace : options[i]? = some o) : Means options text (some o)
  | name {before after : List ChoiceOption} {o : ChoiceOption}
      (hnumber : ¬NumbersPlace options text) (hoptions : options = before ++ o :: after)
      (hname : o.id.toList = text) (hfirst : ∀ p ∈ before, p.id.toList ≠ text) :
      Means options text (some o)
  | nothing (hnumber : ¬NumbersPlace options text) (hname : ∀ o ∈ options, o.id.toList ≠ text) :
      Means options text none

/-- An answer is the name of an option, but it is also a number below the bound of words that is no
place in the list. -/
def IsShadowed (options : List ChoiceOption) (text : List Char) : Prop :=
  (∃ n, Spells text n ∧ n < wordBound) ∧ ¬NumbersPlace options text ∧
    ∃ o ∈ options, o.id.toList = text

theorem IsShadowed.not_means_none (h : IsShadowed options text) : ¬Means options text none := by
  intro hmeans
  obtain ⟨-, -, o, ho, hname⟩ := h
  cases hmeans with
  | nothing _ hnone => exact hnone o ho hname

/-! ### What an answer picks -/

theorem selectOption?_eq (answer : String) (options : List ChoiceOption) :
    selectOption? answer options =
      match Numeral.natural? wordBound (Text.trim answer.toList) with
      | some 0 => none
      | some (i + 1) => options[i]?
      | none => options.find? fun o => o.id.toList == Text.trim answer.toList := rfl

/-- Without a number the first option of the name is found. -/
theorem means_find? (hnumber : ¬NumbersPlace options text) :
    Means options text (options.find? fun o => o.id.toList == text) := by
  cases hfind : options.find? fun o => o.id.toList == text with
  | none => exact .nothing hnumber (by simpa using List.find?_eq_none.mp hfind)
  | some o =>
    obtain ⟨hname, before, after, hoptions, hfirst⟩ := List.find?_eq_some_iff_append.mp hfind
    exact .name hnumber hoptions (by simpa using hname) (by simpa using hfirst)

theorem natural?_of_place (hlength : options.length < wordBound) {i : Nat}
    (hi : i < options.length) (h : Spells text (i + 1)) :
    Numeral.natural? wordBound text = some (i + 1) :=
  natural?_eq_some_iff.mpr ⟨h, by omega⟩

theorem numbersPlace_iff {n : Nat} (h : Spells text n) :
    NumbersPlace options text ↔ 1 ≤ n ∧ n ≤ options.length := by
  constructor
  · rintro ⟨i, hi, hplace⟩
    obtain rfl := h.unique hplace
    omega
  · rintro ⟨hpos, hle⟩
    exact ⟨n - 1, by omega, by rwa [Nat.sub_add_cancel hpos]⟩

/-- A number that is no place picks nothing, and means nothing unless it is a name too. -/
theorem means_none_iff {n : Nat} (hspells : Spells text n) (hlt : n < wordBound)
    (hnumber : ¬NumbersPlace options text) :
    Means options text none ↔ ¬IsShadowed options text := by
  constructor
  · exact fun hmeans hshadowed => hshadowed.not_means_none hmeans
  · intro hfree
    refine .nothing hnumber fun o ho hname => hfree ?_
    exact ⟨⟨n, hspells, hlt⟩, hnumber, o, ho, hname⟩

variable {answer : String}

theorem selectOption?_of_place (hlength : options.length < wordBound) {i : Nat}
    (hi : i < options.length) (h : Spells (Text.trim answer.toList) (i + 1)) :
    selectOption? answer options = some options[i] := by
  rw [selectOption?_eq, natural?_of_place hlength hi h]
  exact List.getElem?_eq_getElem hi

theorem selectOption?_of_no_place {n : Nat} (hspells : Spells (Text.trim answer.toList) n)
    (hlt : n < wordBound) (hnumber : ¬NumbersPlace options (Text.trim answer.toList)) :
    selectOption? answer options = none := by
  rw [selectOption?_eq, natural?_eq_some_iff.mpr ⟨hspells, hlt⟩]
  cases n with
  | zero => rfl
  | succ i =>
    have hi : options.length ≤ i := by
      have hplace := (numbersPlace_iff hspells).not.mp hnumber
      omega
    exact List.getElem?_eq_none hi

theorem selectOption?_of_no_number
    (h : ∀ n < wordBound, ¬Spells (Text.trim answer.toList) n) :
    selectOption? answer options =
      options.find? fun o => o.id.toList == Text.trim answer.toList := by
  have hnone : Numeral.natural? wordBound (Text.trim answer.toList) = none := by
    refine Option.eq_none_iff_forall_ne_some.mpr fun n hn => ?_
    obtain ⟨hspells, hlt⟩ := natural?_eq_some_iff.mp hn
    exact h n hlt hspells
  rw [selectOption?_eq, hnone]

theorem means_selectOption?_iff (hlength : options.length < wordBound) :
    Means options (Text.trim answer.toList) (selectOption? answer options) ↔
      ¬IsShadowed options (Text.trim answer.toList) := by
  by_cases hplace : NumbersPlace options (Text.trim answer.toList)
  · obtain ⟨i, hi, hspells⟩ := hplace
    rw [selectOption?_of_place hlength hi hspells]
    have hmeans : Means options (Text.trim answer.toList) (some options[i]) :=
      .place hspells (List.getElem?_eq_getElem hi)
    exact ⟨fun _ hshadowed => hshadowed.2.1 ⟨i, hi, hspells⟩, fun _ => hmeans⟩
  · by_cases hnumber : ∃ n, Spells (Text.trim answer.toList) n ∧ n < wordBound
    · obtain ⟨n, hspells, hlt⟩ := hnumber
      rw [selectOption?_of_no_place hspells hlt hplace]
      exact means_none_iff hspells hlt hplace
    · have hnone : ∀ n < wordBound, ¬Spells (Text.trim answer.toList) n := fun n hlt hspells =>
        hnumber ⟨n, hspells, hlt⟩
      rw [selectOption?_of_no_number hnone]
      exact ⟨fun _ hshadowed => hnumber hshadowed.1, fun _ => means_find? hplace⟩

/-- For a list of options no longer than words count: an answer picks what it means, unless it is
the name of an option and also a number below the bound of words that is no place in the list; then
it picks nothing. Every option is picked by the number of its place. An option whose name is
trimmed, does not stand before it and is not the number of a place is picked by its name exactly if
that name is no number below the bound of words. -/
theorem picked_by_number_or_name (hlength : options.length < wordBound) :
    (∀ answer : String,
      (Means options (Text.trim answer.toList) (selectOption? answer options) ↔
        ¬IsShadowed options (Text.trim answer.toList)) ∧
      (IsShadowed options (Text.trim answer.toList) → selectOption? answer options = none)) ∧
    (∀ i (hi : i < options.length), selectOption? (toString (i + 1)) options = some options[i]) ∧
    ∀ before o after, options = before ++ o :: after → Text.trim o.id.toList = o.id.toList →
      (∀ p ∈ before, p.id ≠ o.id) → ¬NumbersPlace options o.id.toList →
      (selectOption? o.id options = some o ↔ ∀ n < wordBound, ¬Spells o.id.toList n) := by
  refine ⟨fun answer => ⟨means_selectOption?_iff hlength, ?_⟩, fun i hi => ?_, ?_⟩
  · rintro ⟨⟨n, hspells, hlt⟩, hplace, -⟩
    exact selectOption?_of_no_place hspells hlt hplace
  · have htext : Text.trim (toString (i + 1)).toList = Nat.toDigits 10 (i + 1) := by
      rw [show (toString (i + 1)).toList = Nat.toDigits 10 (i + 1) by simp]
      exact Text.trim_of_isDigit fun c => isDigit_of_mem_toDigits
    exact selectOption?_of_place hlength hi (htext ▸ Numeral.spells_toDigits (i + 1))
  · intro before o after hoptions htrim hfirst hplace
    constructor
    · intro hselect n hlt hspells
      have hnone : selectOption? o.id options = none :=
        selectOption?_of_no_place (htrim.symm ▸ hspells) hlt (htrim.symm ▸ hplace)
      rw [hselect] at hnone
      cases hnone
    · intro hnumber
      rw [selectOption?_of_no_number (htrim.symm ▸ hnumber), htrim]
      refine List.find?_eq_some_iff_append.mpr ⟨by simp, before, after, hoptions, ?_⟩
      intro p hp
      have hne : p.id.toList ≠ o.id.toList := fun heq => hfirst p hp (String.toList_injective heq)
      simp [hne]

/-- A port, a version that is longer than a word, and a name that is the number of another place. -/
def numberedOptions : List ChoiceOption :=
  [⟨"8080", "Proxy"⟩, ⟨"18446744073709551616", "Release"⟩, ⟨"1", "First"⟩]

theorem picked_by_number_or_name_numbered :
    numberedOptions.length < wordBound ∧
    Means numberedOptions (Text.trim " +02\n".toList) (selectOption? " +02\n" numberedOptions) ∧
    selectOption? (toString 1) numberedOptions = some ⟨"8080", "Proxy"⟩ ∧
    selectOption? "18446744073709551616" numberedOptions =
      some ⟨"18446744073709551616", "Release"⟩ := by
  have hlength : numberedOptions.length < wordBound := by decide
  have hlong : Numeral.natural? (wordBound + 1) "18446744073709551616".toList = some wordBound := by
    decide +kernel
  have hspells : Spells "18446744073709551616".toList wordBound :=
    (natural?_eq_some_iff.mp hlong).1
  obtain ⟨hmeans, hplaces, hnames⟩ := picked_by_number_or_name hlength
  refine ⟨hlength, (hmeans " +02\n").1.mpr ?_, hplaces 0 (by decide), ?_⟩
  · rintro ⟨-, hplace, -⟩
    have hread : Numeral.natural? wordBound (Text.trim " +02\n".toList) = some 2 := by
      decide +kernel
    exact hplace ⟨1, by decide, (natural?_eq_some_iff.mp hread).1⟩
  · refine (hnames [⟨"8080", "Proxy"⟩] ⟨"18446744073709551616", "Release"⟩ [⟨"1", "First"⟩] rfl
      (by decide +kernel) (by decide) ?_).mpr ?_
    · rintro ⟨i, hi, hplace⟩
      have heq := hspells.unique hplace
      omega
    · intro n hlt hn
      exact absurd (hspells.unique hn) hlt.ne'

/-- A port that is typed as the name of its option is taken for a number beyond the list. -/
theorem port_not_picked :
    ¬NumbersPlace [⟨"8080", "Proxy"⟩] (Text.trim "8080".toList) ∧
    Means [⟨"8080", "Proxy"⟩] (Text.trim "8080".toList) (some ⟨"8080", "Proxy"⟩) ∧
    selectOption? "8080" [⟨"8080", "Proxy"⟩] = none := by
  have hread : Numeral.natural? wordBound (Text.trim "8080".toList) = some 8080 := by
    decide +kernel
  have hplace : ¬NumbersPlace [⟨"8080", "Proxy"⟩] (Text.trim "8080".toList) := by
    rw [numbersPlace_iff (natural?_eq_some_iff.mp hread).1]
    decide
  refine ⟨hplace, ?_, by decide +kernel⟩
  exact .name hplace (List.nil_append [_]).symm (by decide +kernel) (by simp)

end Runbook.Console
