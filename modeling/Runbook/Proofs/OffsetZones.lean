import Runbook.Schedule.Error

/-!
What a setting of the time zone stands for. The offsets from universal time are spelled by a small
grammar: an optional sign, one or two digits, and optionally two zeros of minutes. Main statements:
the reader of offsets accepts exactly the texts of that grammar, with the value that they spell, and
each of them is resolved to a region that keeps exactly so many hours from universal time; a text
that starts like a number and is no offset is refused, and all others are names of regions.
-/

namespace Runbook.Zone

open Numeral (digitValue digitsValue)

variable {s : List Char} {n : Nat} {hours : Int} {text name : String}

/-! ## The grammar of offsets -/

/-- A count of hours as it is written: one digit or two. -/
inductive WritesCount : List Char → Nat → Prop where
  | one {a : Char} (ha : a.isDigit = true) : WritesCount [a] (digitValue a)
  | two {a b : Char} (ha : a.isDigit = true) (hb : b.isDigit = true) :
      WritesCount [a, b] (10 * digitValue a + digitValue b)

/-- Hours as they are written: a count, optionally with zero minutes after it. -/
inductive WritesHours : List Char → Nat → Prop where
  | bare {s : List Char} {n : Nat} (h : WritesCount s n) : WritesHours s n
  | withMinutes {s : List Char} {n : Nat} (h : WritesCount s n) :
      WritesHours (s ++ [':', '0', '0']) n

/-- Hours with or without a sign as they are written. -/
inductive WritesOffset : List Char → Int → Prop where
  | unsigned {s : List Char} {n : Nat} (h : WritesHours s n) : WritesOffset s n
  | plus {s : List Char} {n : Nat} (h : WritesHours s n) : WritesOffset ('+' :: s) n
  | minus {s : List Char} {n : Nat} (h : WritesHours s n) : WritesOffset ('-' :: s) (-n)

/-- A setting that means a whole number of hours from universal time: a blank one, or one that
spells a number of hours between the least and the greatest distance. -/
def IsOffset (text : String) (hours : Int) : Prop :=
  (Text.trim text.toList = [] ∧ hours = 0) ∨
    (WritesOffset (Text.trim text.toList) hours ∧ -12 ≤ hours ∧ hours ≤ 14)

/-- A text whose first character after any number of signs is a digit. -/
def StartsNumeric (s : List Char) : Prop :=
  ∃ signs first rest, s = signs ++ first :: rest ∧ (∀ c ∈ signs, c = '+' ∨ c = '-') ∧
    first.isDigit = true

/-! ## The reader accepts exactly the grammar -/

theorem ne_sign {c : Char} (h : c.isDigit = true) : c ≠ '+' ∧ c ≠ '-' := by
  constructor
  · rintro rfl
    simp at h
  · rintro rfl
    simp at h

theorem writesCount_iff : WritesCount s n ↔
    (s.length = 1 ∨ s.length = 2) ∧ (∀ c ∈ s, c.isDigit = true) ∧ n = digitsValue 0 s := by
  constructor
  · intro h
    cases h with
    | one ha => simp [ha, digitsValue]
    | two ha hb => simp [ha, hb, digitsValue]
  · rintro ⟨hlength, hdigits, rfl⟩
    match s, hlength with
    | [a], _ =>
      have ha := hdigits a (by simp)
      simpa [digitsValue] using WritesCount.one ha
    | [a, b], _ =>
      have ha := hdigits a (by simp)
      have hb := hdigits b (by simp)
      simpa [digitsValue] using WritesCount.two ha hb

theorem WritesHours.head (h : WritesHours s n) :
    ∃ first rest, s = first :: rest ∧ first.isDigit = true := by
  cases h with
  | bare h =>
    cases h with
    | one ha => exact ⟨_, _, rfl, ha⟩
    | two ha hb => exact ⟨_, _, rfl, ha⟩
  | withMinutes h =>
    cases h with
    | one ha => exact ⟨_, _, rfl, ha⟩
    | two ha hb => exact ⟨_, _, rfl, ha⟩

theorem hours?_eq_some_iff : hours? s = some n ↔ WritesHours s n := by
  constructor
  · intro h
    have hsplit : s.takeWhile Char.isDigit ++ s.dropWhile Char.isDigit = s :=
      List.takeWhile_append_dropWhile
    have hrest : s.drop (s.takeWhile Char.isDigit).length = s.dropWhile Char.isDigit := by
      have hdrop : (s.takeWhile Char.isDigit ++ s.dropWhile Char.isDigit).drop
          (s.takeWhile Char.isDigit).length = s.dropWhile Char.isDigit := List.drop_left
      rwa [hsplit] at hdrop
    simp only [hours?, hrest] at h
    split at h
    case isFalse => simp at h
    case isTrue hif =>
      simp only [Bool.and_eq_true, Bool.or_eq_true, beq_iff_eq, isWholeHour,
        List.isEmpty_iff] at hif
      have hcount : WritesCount (s.takeWhile Char.isDigit) n := by
        refine writesCount_iff.mpr ⟨hif.1, ?_, (Option.some.inj h).symm⟩
        intro c hc
        exact List.all_eq_true.mp List.all_takeWhile c hc
      rw [← hsplit]
      cases hif.2 with
      | inl hnone => simpa [hnone] using WritesHours.bare hcount
      | inr hzeros => simpa [hzeros] using WritesHours.withMinutes hcount
  · intro h
    cases h with
    | bare h =>
      cases h with
      | one ha => simp [hours?, ha, isWholeHour, digitsValue]
      | two ha hb => simp [hours?, ha, hb, isWholeHour, digitsValue]
    | withMinutes h =>
      cases h with
      | one ha => simp [hours?, ha, isWholeHour, digitsValue]
      | two ha hb => simp [hours?, ha, hb, isWholeHour, digitsValue]

theorem signedHours?_eq_some_iff : signedHours? s = some hours ↔ WritesOffset s hours := by
  constructor
  · intro h
    unfold signedHours? at h
    split at h
    case h_1 rest =>
      cases hn : hours? rest with
      | none => simp [hn] at h
      | some n =>
        have hvalue : -(n : Int) = hours := by simpa [hn] using h
        rw [← hvalue]
        exact .minus (hours?_eq_some_iff.mp hn)
    case h_2 rest =>
      cases hn : hours? rest with
      | none => simp [hn] at h
      | some n =>
        have hvalue : (n : Int) = hours := by simpa [hn] using h
        rw [← hvalue]
        exact .plus (hours?_eq_some_iff.mp hn)
    case h_3 =>
      cases hn : hours? s with
      | none => simp [hn] at h
      | some n =>
        have hvalue : (n : Int) = hours := by simpa [hn] using h
        rw [← hvalue]
        exact .unsigned (hours?_eq_some_iff.mp hn)
  · intro h
    cases h with
    | plus h => simp [signedHours?, hours?_eq_some_iff.mpr h]
    | minus h => simp [signedHours?, hours?_eq_some_iff.mpr h]
    | unsigned h =>
      obtain ⟨first, rest, rfl, hfirst⟩ := h.head
      have hplus : first ≠ '+' := (ne_sign hfirst).1
      have hminus : first ≠ '-' := (ne_sign hfirst).2
      simp [signedHours?, hminus, hplus, hours?_eq_some_iff.mpr h]

theorem offsetHours?_eq_some_iff : offsetHours? text = some hours ↔ IsOffset text hours := by
  unfold offsetHours? IsOffset
  cases htrim : Text.trim text.toList with
  | nil =>
    have hno : ¬WritesOffset [] hours := by
      intro h
      have hsome := signedHours?_eq_some_iff.mpr h
      simp [signedHours?, hours?] at hsome
    simp [hno, eq_comm]
  | cons c rest =>
    simp only [Option.filter_eq_some_iff, signedHours?_eq_some_iff, Bool.and_eq_true,
      decide_eq_true_eq, reduceCtorEq, false_and, false_or]
    rfl

/-! ## Texts that start like a number -/

theorem looksNumeric_iff : looksNumeric text = true ↔
    Text.trim text.toList = [] ∨ StartsNumeric (Text.trim text.toList) := by
  simp only [looksNumeric, Bool.or_eq_true, List.isEmpty_iff]
  refine or_congr_right ⟨?_, ?_⟩
  · intro h
    generalize Text.trim text.toList = s at h ⊢
    cases hrest : s.dropWhile fun c => c == '+' || c == '-' with
    | nil => simp [hrest] at h
    | cons first rest =>
      have hfirst : first.isDigit = true := by simpa [hrest] using h
      refine ⟨s.takeWhile fun c => c == '+' || c == '-', first, rest, ?_, ?_, hfirst⟩
      · rw [← hrest, List.takeWhile_append_dropWhile]
      · intro c hc
        simpa using List.all_eq_true.mp List.all_takeWhile c hc
  · rintro ⟨signs, first, rest, hs, hsigns, hfirst⟩
    have hplus : first ≠ '+' := (ne_sign hfirst).1
    have hminus : first ≠ '-' := (ne_sign hfirst).2
    have hdrop : (signs ++ first :: rest).dropWhile (fun c => c == '+' || c == '-') =
        first :: rest := by
      rw [List.dropWhile_append_of_pos (by simpa using hsigns)]
      simp [hminus, hplus]
    simp [hs, hdrop, hfirst]

theorem WritesOffset.startsNumeric (h : WritesOffset s hours) : StartsNumeric s := by
  cases h with
  | unsigned h =>
    obtain ⟨first, rest, rfl, hfirst⟩ := h.head
    exact ⟨[], first, rest, rfl, by simp, hfirst⟩
  | plus h =>
    obtain ⟨first, rest, rfl, hfirst⟩ := h.head
    exact ⟨['+'], first, rest, rfl, by simp, hfirst⟩
  | minus h =>
    obtain ⟨first, rest, rfl, hfirst⟩ := h.head
    exact ⟨['-'], first, rest, rfl, by simp, hfirst⟩

theorem IsOffset.looksNumeric (h : IsOffset text hours) : looksNumeric text = true := by
  rw [looksNumeric_iff]
  cases h with
  | inl hblank => exact .inl hblank.1
  | inr hoffset => exact .inr hoffset.1.startsNumeric

/-! ## The regions of the table -/

def IsRegion (name : String) : Prop := ∃ row ∈ ZoneTable.table, name ∈ row.2

instance (name : String) : Decidable (IsRegion name) :=
  inferInstanceAs (Decidable (∃ row ∈ ZoneTable.table, name ∈ row.2))

theorem ofName?_of_isRegion (h : IsRegion name) : ofName? name = some (.region name) := by
  obtain ⟨row, hrow, hname⟩ := h
  cases hrule : ZoneTable.rule? name with
  | some rule => simp [ofName?, hrule]
  | none =>
    have hnot := List.findSome?_eq_none_iff.mp hrule row hrow
    simp [hname] at hnot

theorem ofName?_of_not_isRegion (h : ¬IsRegion name) : ofName? name = none := by
  have hrule : ZoneTable.rule? name = none := by
    refine List.findSome?_eq_none_iff.mpr ?_
    intro row hrow
    have hname : name ∉ row.2 := fun hname => h ⟨row, hrow, hname⟩
    simp [hname]
  simp [ofName?, hrule]

/-- The signs in the names of the regions are inverted, and those of the offsets are so too: every
whole number of hours finds the region that keeps it. -/
theorem rule?_offsetName (hleast : -12 ≤ hours) (hgreatest : hours ≤ 14) :
    ZoneTable.rule? (offsetName hours) = some (.fixed (hours * 60)) := by
  have hall : ∀ k : Fin 27, ZoneTable.rule? (offsetName ((k.val : Int) - 12)) =
      some (.fixed (((k.val : Int) - 12) * 60)) := by decide +kernel
  have hk := hall ⟨(hours + 12).toNat, by omega⟩
  have hval : (((hours + 12).toNat : Nat) : Int) - 12 = hours := by omega
  simpa only [hval] using hk

theorem IsOffset.between (h : IsOffset text hours) : -12 ≤ hours ∧ hours ≤ 14 := by
  cases h with
  | inl hblank =>
    have hzero := hblank.2
    omega
  | inr hoffset => exact hoffset.2

/-! ## What a setting is resolved to -/

theorem resolve_of_isOffset (h : IsOffset text hours) :
    Zone.resolve (some text) = .ok (.region (offsetName hours)) := by
  have hrule := rule?_offsetName h.between.1 h.between.2
  have hhours := offsetHours?_eq_some_iff.mpr h
  simp [Zone.resolve, resolve?, h.looksNumeric, hhours, ofName?, hrule]

theorem rule_offsetName (h : IsOffset text hours) :
    (Zone.region (offsetName hours)).rule = .fixed (hours * 60) := by
  simp [rule, rule?_offsetName h.between.1 h.between.2]

theorem resolve_of_startsNumeric (hno : ¬∃ hours, IsOffset text hours)
    (hnumeric : StartsNumeric (Text.trim text.toList)) :
    Zone.resolve (some text) = .error (.invalidTimezone text) := by
  have hlooks : looksNumeric text = true := looksNumeric_iff.mpr (.inr hnumeric)
  have hhours : offsetHours? text = none := by
    rw [Option.eq_none_iff_forall_ne_some]
    intro hours hsome
    exact hno ⟨hours, offsetHours?_eq_some_iff.mp hsome⟩
  simp [Zone.resolve, resolve?, hlooks, hhours]

theorem resolve_of_name (hblank : Text.trim text.toList ≠ [])
    (hnumeric : ¬StartsNumeric (Text.trim text.toList)) :
    Zone.resolve (some text) =
      match ofName? (trimmed text) with
      | some zone => .ok zone
      | none => .error (.invalidTimezone text) := by
  have hlooks : looksNumeric text = false := by
    rw [Bool.eq_false_iff, Ne, looksNumeric_iff]
    simp [hblank, hnumeric]
  have hresolve : resolve? (some text) = ofName? (trimmed text) := by simp [resolve?, hlooks]
  cases hname : ofName? (trimmed text) with
  | none => simp [Zone.resolve, hresolve, hname]
  | some zone => simp [Zone.resolve, hresolve, hname]

/-- What every setting stands for. It is read as an offset exactly if it is blank or spells, in the
grammar of offsets, a number of hours within the bounds; each of these is resolved to a region whose
clocks are that many hours ahead of universal time at every instant. A setting that starts like a
number and is none of these is refused with its text, and every other one that is not blank is the
name of a region with the blanks at its ends, or refused with its text. -/
theorem offsets_exact (text : String) :
    (∀ hours, offsetHours? text = some hours ↔ IsOffset text hours) ∧
    (∀ hours, IsOffset text hours → ∃ zone, Zone.resolve (some text) = .ok zone ∧
      zone.rule = .fixed (60 * hours) ∧
      ∀ second, zone.rule.toLocal second = second + 3600 * hours) ∧
    ((¬∃ hours, IsOffset text hours) → StartsNumeric (Text.trim text.toList) →
      Zone.resolve (some text) = .error (.invalidTimezone text)) ∧
    (Text.isBlankText text.toList = false → ¬StartsNumeric (Text.trim text.toList) →
      (IsRegion (trimmed text) → Zone.resolve (some text) = .ok (.region (trimmed text))) ∧
      (¬IsRegion (trimmed text) → Zone.resolve (some text) = .error (.invalidTimezone text))) := by
  refine ⟨fun hours => offsetHours?_eq_some_iff, ?_, resolve_of_startsNumeric, ?_⟩
  · intro hours h
    have hrule : (Zone.region (offsetName hours)).rule = .fixed (60 * hours) := by
      rw [rule_offsetName h, Int.mul_comm]
    refine ⟨.region (offsetName hours), resolve_of_isOffset h, hrule, ?_⟩
    intro second
    simp only [hrule, ZoneRule.toLocal, ZoneRule.offsetAt]
    omega
  · intro hblank hnumeric
    have htrim : Text.trim text.toList ≠ [] := by
      rw [Ne, Text.trim_eq_nil_iff]
      simp [hblank]
    rw [resolve_of_name htrim hnumeric]
    refine ⟨?_, ?_⟩
    · intro hregion
      simp [ofName?_of_isRegion hregion]
    · intro hregion
      simp [ofName?_of_not_isRegion hregion]

theorem offsets_exact_standard :
    (∃ zone, Zone.resolve (some " -05:00 ") = .ok zone ∧ zone.rule = .fixed (60 * -5) ∧
      ∀ second, zone.rule.toLocal second = second + 3600 * -5) ∧
    Zone.resolve (some "+-15") = .error (.invalidTimezone "+-15") ∧
    Zone.resolve (some "Asia/Seoul ") = .ok (.region "Asia/Seoul") ∧
    Zone.resolve (some "Mars/Olympus") = .error (.invalidTimezone "Mars/Olympus") := by
  have hseoul : ¬StartsNumeric (Text.trim "Asia/Seoul ".toList) := by
    intro h
    have hlooks : looksNumeric "Asia/Seoul " = true := looksNumeric_iff.mpr (.inr h)
    revert hlooks
    decide
  have hmars : ¬StartsNumeric (Text.trim "Mars/Olympus".toList) := by
    intro h
    have hlooks : looksNumeric "Mars/Olympus" = true := looksNumeric_iff.mpr (.inr h)
    revert hlooks
    decide
  refine ⟨?_, ?_, ?_, ?_⟩
  · refine (offsets_exact " -05:00 ").2.1 (-5) (.inr ⟨?_, by decide, by decide⟩)
    exact WritesOffset.minus (.withMinutes (.two (a := '0') (b := '5') rfl rfl))
  · refine (offsets_exact "+-15").2.2.1 ?_ ⟨['+', '-'], '1', ['5'], by decide, by simp, rfl⟩
    rintro ⟨hours, h⟩
    have hsome := ((offsets_exact "+-15").1 hours).mpr h
    have hnone : offsetHours? "+-15" = none := by decide
    simp [hnone] at hsome
  · exact ((offsets_exact "Asia/Seoul ").2.2.2 (by decide) hseoul).1 (by decide +kernel)
  · exact ((offsets_exact "Mars/Olympus").2.2.2 (by decide) hmars).2 (by decide +kernel)

end Runbook.Zone
