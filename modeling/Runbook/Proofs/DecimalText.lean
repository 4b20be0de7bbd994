import Runbook.Decimal.Reading
import Runbook.Text.Blank
import Runbook.Time.Timestamp
import Runbook.Proofs.TextCuts
import Mathlib.Data.Char
import Mathlib.Data.List.Lex
import Mathlib.Tactic.IntervalCases
import Mathlib.Tactic.Ring

/-!
Decimal digits: the digits of a number have it as their value, also with zeros before them or after
them. Main statements: digits of the same length are in the order of their values, so numbers of one
width are in the order of their texts whatever comes after these; and the reader of natural numbers
accepts exactly the digits of a number, with zeros and a plus sign before them or without.
-/

namespace Runbook

/-- A text with a character several times after it. -/
theorem toList_pushn (s : String) (c : Char) (n : Nat) :
    (s.pushn c n).toList = s.toList ++ List.replicate n c := by
  rw [String.pushn_eq_repeat_push]
  induction n with
  | zero => simp [Nat.repeat]
  | succ n ih => rw [Nat.repeat, String.toList_push, ih, List.append_assoc,
      ← List.replicate_succ']

namespace Numeral

theorem digitsValue_eq (start : Nat) (s : List Char) :
    digitsValue start s = Nat.ofDigitChars 10 s start := rfl

@[simp] theorem digitsValue_nil (start : Nat) : digitsValue start [] = start := rfl

theorem digitsValue_append (start : Nat) (s t : List Char) :
    digitsValue start (s ++ t) = digitsValue (digitsValue start s) t := by
  simp [digitsValue]

theorem digitsValue_zeros (start k : Nat) :
    digitsValue start (List.replicate k '0') = 10 ^ k * start := by
  rw [digitsValue_eq, Nat.ofDigitChars_replicate_zero]

@[simp] theorem digitsValue_toDigits (n : Nat) : digitsValue 0 (Nat.toDigits 10 n) = n := by
  rw [digitsValue_eq, Nat.ofDigitChars_ten_toDigits]

theorem digitsValue_lt {s : List Char} (h : ∀ c ∈ s, c.isDigit = true) (start : Nat) :
    digitsValue start s < (start + 1) * 10 ^ s.length := by
  induction s generalizing start with
  | nil => simp
  | cons c s ih =>
    have hc : digitValue c ≤ 9 := by
      have hdigit := h c List.mem_cons_self
      simp only [Char.isDigit, Bool.and_eq_true, decide_eq_true_eq, ge_iff_le, UInt32.le_iff_toNat_le]
        at hdigit
      have : c.toNat ≤ 57 := hdigit.2
      simp only [digitValue]
      omega
    calc digitsValue start (c :: s) = digitsValue (10 * start + digitValue c) s := rfl
      _ < (10 * start + digitValue c + 1) * 10 ^ s.length :=
        ih (fun d hd => h d (List.mem_cons_of_mem c hd)) _
      _ ≤ (10 * start + 10) * 10 ^ s.length := Nat.mul_le_mul_right _ (by omega)
      _ = (start + 1) * 10 ^ (c :: s).length := by rw [List.length_cons, Nat.pow_succ]; ring

end Numeral

/-! ### Texts in order -/

theorem append_lt_append_iff {a b : List Char} (hlength : a.length = b.length) (s t : List Char) :
    a ++ s < b ++ t ↔ a < b ∨ a = b ∧ s < t := by
  induction a generalizing b with
  | nil =>
    obtain rfl : b = [] := List.length_eq_zero_iff.mp hlength.symm
    simp
  | cons c a ih =>
    obtain ⟨d, b, rfl⟩ := List.exists_cons_of_length_eq_add_one hlength.symm
    have hrest : a.length = b.length := by simpa using hlength
    simp only [List.cons_append, List.cons_lt_cons_iff, ih hrest, List.cons.injEq]
    tauto

namespace Numeral

variable {s t : List Char}

theorem digitValue_lt_iff {c d : Char} (hc : c.isDigit = true) (hd : d.isDigit = true) :
    digitValue c < digitValue d ↔ c < d := by
  simp only [Char.isDigit, ge_iff_le, Bool.and_eq_true, decide_eq_true_eq,
    UInt32.le_iff_toNat_le] at hc hd
  have hlow : 48 ≤ c.toNat ∧ 48 ≤ d.toNat := ⟨hc.1, hd.1⟩
  rw [Char.lt_def, UInt32.lt_iff_toNat_lt]
  simp only [digitValue]
  change _ ↔ c.toNat < d.toNat
  omega

theorem le_digitsValue (start : Nat) (s : List Char) :
    start * 10 ^ s.length ≤ digitsValue start s := by
  induction s generalizing start with
  | nil => simp
  | cons c s ih =>
    calc start * 10 ^ (c :: s).length = 10 * start * 10 ^ s.length := by
          rw [List.length_cons, Nat.pow_succ]; ring
      _ ≤ (10 * start + digitValue c) * 10 ^ s.length :=
        Nat.mul_le_mul_right _ (Nat.le_add_right _ _)
      _ ≤ digitsValue start (c :: s) := ih _

theorem digitsValue_lt_of_lt (hs : ∀ c ∈ s, c.isDigit = true) (ht : ∀ c ∈ t, c.isDigit = true)
    (hlength : s.length = t.length) (h : s < t) (start : Nat) :
    digitsValue start s < digitsValue start t := by
  induction s generalizing t start with
  | nil =>
    obtain rfl : t = [] := List.length_eq_zero_iff.mp hlength.symm
    exact absurd h (List.not_lt_nil _)
  | cons c s ih =>
    obtain ⟨d, u, rfl⟩ := List.exists_cons_of_length_eq_add_one hlength.symm
    have hrest : s.length = u.length := by simpa using hlength
    obtain ⟨hc, hs⟩ := List.forall_mem_cons.mp hs
    obtain ⟨hd, hu⟩ := List.forall_mem_cons.mp ht
    rcases List.cons_lt_cons_iff.mp h with hcd | ⟨rfl, hsu⟩
    · have hvalue := (digitValue_lt_iff hc hd).mpr hcd
      calc digitsValue start (c :: s) = digitsValue (10 * start + digitValue c) s := rfl
        _ < (10 * start + digitValue c + 1) * 10 ^ s.length := digitsValue_lt hs _
        _ ≤ (10 * start + digitValue d) * 10 ^ u.length := by
          rw [hrest]
          exact Nat.mul_le_mul_right _ (by omega)
        _ ≤ digitsValue start (d :: u) := le_digitsValue _ u
    · exact ih hs hu hrest hsu _

theorem lt_iff_digitsValue_lt (hs : ∀ c ∈ s, c.isDigit = true) (ht : ∀ c ∈ t, c.isDigit = true)
    (hlength : s.length = t.length) : s < t ↔ digitsValue 0 s < digitsValue 0 t := by
  refine ⟨fun h => digitsValue_lt_of_lt hs ht hlength h 0, fun h => ?_⟩
  rcases lt_trichotomy s t with hlt | rfl | hgt
  · exact hlt
  · exact absurd h (lt_irrefl _)
  · exact absurd h (digitsValue_lt_of_lt ht hs hlength.symm hgt 0).asymm

theorem eq_of_digitsValue_eq (hs : ∀ c ∈ s, c.isDigit = true) (ht : ∀ c ∈ t, c.isDigit = true)
    (hlength : s.length = t.length) (h : digitsValue 0 s = digitsValue 0 t) : s = t := by
  rcases lt_trichotomy s t with hlt | heq | hgt
  · exact absurd h (digitsValue_lt_of_lt hs ht hlength hlt 0).ne
  · exact heq
  · exact absurd h.symm (digitsValue_lt_of_lt ht hs hlength.symm hgt 0).ne

end Numeral

/-! ### The digits of a number -/

theorem isDigit_of_mem_toDigits {n : Nat} {c : Char} (h : c ∈ Nat.toDigits 10 n) :
    c.isDigit = true := Nat.isDigit_of_mem_toDigits (by decide) (by decide) h

theorem head?_toDigits {n : Nat} (h : 0 < n) : (Nat.toDigits 10 n).head? ≠ some '0' := by
  induction n using Nat.strongRecOn with
  | _ n ih =>
    by_cases hlt : n < 10
    · rw [Nat.toDigits_of_lt_base hlt]
      interval_cases n <;> decide
    · rw [Nat.toDigits_of_base_le (by decide) (by omega), List.head?_append]
      have hhead := ih (n / 10) (by omega) (by omega)
      have hne : Nat.toDigits 10 (n / 10) ≠ [] := Nat.toDigits_ne_nil
      cases hd : Nat.toDigits 10 (n / 10) with
      | nil => exact absurd hd hne
      | cons c s => simpa [hd] using hhead

/-! ### Digits among blanks -/

namespace Text

theorem isBlank_of_isDigit {c : Char} (h : c.isDigit = true) : isBlank c = false := by
  simp only [Char.isDigit, ge_iff_le, Bool.and_eq_true, decide_eq_true_eq,
    UInt32.le_iff_toNat_le] at h
  have hlow : 48 ≤ c.toNat := h.1
  have hhigh : c.toNat ≤ 57 := h.2
  simp only [isBlank, Bool.or_eq_false_iff, Bool.and_eq_false_iff, decide_eq_false_iff_not,
    beq_eq_false_iff_ne]
  omega

theorem trim_of_isDigit {s : List Char} (h : ∀ c ∈ s, c.isDigit = true) : trim s = s := by
  have hblank : ∀ c ∈ s, isBlank c = false := fun c hc => isBlank_of_isDigit (h c hc)
  exact trim_eq_self (fun c hc => hblank c (List.mem_of_head? hc))
    fun c hc => hblank c (List.mem_of_getLast? hc)

end Text

/-! ### Numbers with zeros before them -/

theorem toList_padded (width n : Nat) : (padded width n).toList =
    List.replicate (width - (Nat.toDigits 10 n).length) '0' ++ Nat.toDigits 10 n := by
  simp [padded, toList_pushn, Nat.repr_eq_ofList_toDigits]

theorem isDigit_of_mem_padded {width n : Nat} {c : Char} (h : c ∈ (padded width n).toList) :
    c.isDigit = true := by
  rw [toList_padded, List.mem_append, List.mem_replicate] at h
  rcases h with ⟨-, rfl⟩ | h
  · decide
  · exact isDigit_of_mem_toDigits h

@[simp] theorem digitsValue_padded (width n : Nat) :
    Numeral.digitsValue 0 (padded width n).toList = n := by
  rw [toList_padded, Numeral.digitsValue_append, Numeral.digitsValue_zeros, Nat.mul_zero,
    Numeral.digitsValue_toDigits]

theorem length_padded {width n : Nat} (hw : 0 < width) (h : n < 10 ^ width) :
    (padded width n).toList.length = width := by
  have hlen := (Nat.length_toDigits_le_iff (b := 10) (by decide) hw).mpr h
  rw [toList_padded, List.length_append, List.length_replicate]
  omega

theorem padded_ne_nil (width n : Nat) : (padded width n).toList ≠ [] := by
  rw [toList_padded]
  simp [Nat.toDigits_ne_nil]

/-! ### Numbers of one width -/

/-- Numbers of one width are in the order of their texts, whatever comes after these. -/
theorem padded_append_lt_iff {width m n : Nat} (hwidth : 0 < width) (hm : m < 10 ^ width)
    (hn : n < 10 ^ width) (s t : List Char) :
    (padded width m).toList ++ s < (padded width n).toList ++ t ↔ m < n ∨ m = n ∧ s < t := by
  have hlength := (length_padded hwidth hm).trans (length_padded hwidth hn).symm
  have hvalues : (padded width m).toList = (padded width n).toList ↔ m = n := by
    refine ⟨fun h => ?_, fun h => h ▸ rfl⟩
    have hvalue := congrArg (Numeral.digitsValue 0) h
    rwa [digitsValue_padded, digitsValue_padded] at hvalue
  rw [append_lt_append_iff hlength, hvalues, Numeral.lt_iff_digitsValue_lt
    (fun c => isDigit_of_mem_padded) (fun c => isDigit_of_mem_padded) hlength, digitsValue_padded,
    digitsValue_padded]

/-! ### Natural numbers as they are written -/

namespace Numeral

variable {s t : List Char}

/-- A number as it is written: its digits, with zeros before them or not, and with a plus sign
before all of these or none. -/
inductive Spells : List Char → Nat → Prop where
  | digits (zeros n : Nat) : Spells (List.replicate zeros '0' ++ Nat.toDigits 10 n) n
  | plus (zeros n : Nat) : Spells ('+' :: (List.replicate zeros '0' ++ Nat.toDigits 10 n)) n

theorem exists_zeros (hs : ∀ c ∈ s, c.isDigit = true) (hne : s ≠ []) :
    ∃ zeros, s = List.replicate zeros '0' ++ Nat.toDigits 10 (digitsValue 0 s) := by
  have hwidth : 0 < s.length := List.length_pos_iff.mpr hne
  have hlt : digitsValue 0 s < 10 ^ s.length := by simpa using digitsValue_lt hs 0
  have hlength := length_padded hwidth hlt
  refine ⟨s.length - (Nat.toDigits 10 (digitsValue 0 s)).length, ?_⟩
  rw [← toList_padded]
  refine eq_of_digitsValue_eq hs (fun c => isDigit_of_mem_padded) hlength.symm ?_
  rw [digitsValue_padded]

theorem isDigit_of_mem_zeros {zeros n : Nat} {c : Char}
    (h : c ∈ List.replicate zeros '0' ++ Nat.toDigits 10 n) : c.isDigit = true := by
  rcases List.mem_append.mp h with h | h
  · rw [List.eq_of_mem_replicate h]
    decide
  · exact isDigit_of_mem_toDigits h

/-- What the reader takes for digits is what is written as a number without a sign. -/
theorem digits_iff {bound n : Nat} : (if (!s.isEmpty && s.all Char.isDigit &&
      decide (digitsValue 0 s < bound)) = true then some (digitsValue 0 s) else none) = some n ↔
    (∃ zeros, s = List.replicate zeros '0' ++ Nat.toDigits 10 n) ∧ n < bound := by
  simp only [Option.ite_none_right_eq_some, Bool.and_eq_true, Bool.not_eq_true',
    List.isEmpty_eq_false_iff, List.all_eq_true, decide_eq_true_eq, Option.some.injEq]
  constructor
  · rintro ⟨⟨⟨hne, hs⟩, hlt⟩, rfl⟩
    exact ⟨exists_zeros hs hne, hlt⟩
  · rintro ⟨⟨zeros, rfl⟩, hlt⟩
    have hvalue : digitsValue 0 (List.replicate zeros '0' ++ Nat.toDigits 10 n) = n := by
      rw [digitsValue_append, digitsValue_zeros, Nat.mul_zero, digitsValue_toDigits]
    have hne : List.replicate zeros '0' ++ Nat.toDigits 10 n ≠ [] := by
      simp [Nat.toDigits_ne_nil]
    exact ⟨⟨⟨hne, fun c => isDigit_of_mem_zeros⟩, hvalue.symm ▸ hlt⟩, hvalue⟩

/-- The reader of natural numbers accepts exactly what is written as one below the bound. -/
theorem natural?_eq_some_iff {bound n : Nat} :
    natural? bound s = some n ↔ Spells s n ∧ n < bound := by
  unfold natural?
  dsimp only
  split
  case h_1 rest =>
    rw [digits_iff]
    refine and_congr_left fun _ => ⟨?_, ?_⟩
    · rintro ⟨zeros, rfl⟩
      exact .plus zeros n
    · intro h
      generalize hs : '+' :: rest = s at h
      cases h with
      | digits zeros =>
        have hplus : '+'.isDigit = true := isDigit_of_mem_zeros (hs ▸ List.mem_cons_self)
        exact absurd hplus (by decide)
      | plus zeros => exact ⟨zeros, (List.cons.inj hs).2⟩
  case h_2 hsign =>
    rw [digits_iff]
    refine and_congr_left fun _ => ⟨?_, ?_⟩
    · rintro ⟨zeros, rfl⟩
      exact .digits zeros n
    · intro h
      cases h with
      | digits zeros => exact ⟨zeros, rfl⟩
      | plus zeros => exact absurd rfl (hsign _)

theorem Spells.unique {m n : Nat} (hm : Spells s m) (hn : Spells s n) : m = n := by
  have hfirst : natural? (m + n + 1) s = some m := natural?_eq_some_iff.mpr ⟨hm, by omega⟩
  have hsecond : natural? (m + n + 1) s = some n := natural?_eq_some_iff.mpr ⟨hn, by omega⟩
  exact Option.some.inj (hfirst.symm.trans hsecond)

theorem spells_toDigits (n : Nat) : Spells (Nat.toDigits 10 n) n := .digits 0 n

theorem natural?_toDigits {bound n : Nat} (h : n < bound) :
    natural? bound (Nat.toDigits 10 n) = some n :=
  natural?_eq_some_iff.mpr ⟨spells_toDigits n, h⟩

end Numeral

end Runbook
