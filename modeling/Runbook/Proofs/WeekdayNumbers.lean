import Mathlib.Tactic.IntervalCases
import Runbook.Schedule.Error
import Runbook.Proofs.CronFields
import Runbook.Proofs.TextCuts

/-!
Weekdays counted from 0 to 7. Main statement: an expression of five fields fires on the weekdays
that the items of its last field count off, Sunday being both 0 and 7; only the range from 7 to 7
is refused.
-/

namespace Runbook.Cron

/-! ### Items as they are written -/

inductive WeekdayItem where
  | every
  | one (day : Nat)
  | between (first last : Nat)
  | everyStep (step : Nat)
  | betweenSteps (first last step : Nat)
  deriving DecidableEq, Repr

namespace WeekdayItem

def first : WeekdayItem → Nat
  | every | everyStep _ => 0
  | one d => d
  | between a _ | betweenSteps a _ _ => a

def last : WeekdayItem → Nat
  | every | everyStep _ => 7
  | one d => d
  | between _ b | betweenSteps _ b _ => b

def step : WeekdayItem → Nat
  | every | one _ | between _ _ => 1
  | everyStep n | betweenSteps _ _ n => n

structure IsValid (item : WeekdayItem) : Prop where
  ordered : item.first ≤ item.last
  last_le : item.last ≤ 7
  step_pos : 1 ≤ item.step
  step_le : item.step ≤ 7

/-- The numbers from the first one to the last one at the step of an item. -/
def Counts (item : WeekdayItem) (x : Nat) : Prop :=
  (item.first ≤ x ∧ x ≤ item.last) ∧ item.step ∣ x - item.first

inductive Written : WeekdayItem → String → Prop
  | every : Written every "*"
  | one {d s} (h : number? s = some d) : Written (one d) s
  | between {a b s t} (ha : number? s = some a) (hb : number? t = some b) :
    Written (between a b) (s ++ "-" ++ t)
  | everyStep {n s} (h : number? s = some n) : Written (everyStep n) ("*" ++ "/" ++ s)
  | betweenSteps {a b n s t u} (ha : number? s = some a) (hb : number? t = some b)
    (hn : number? u = some n) : Written (betweenSteps a b n) (s ++ "-" ++ t ++ "/" ++ u)

def normal : WeekdayItem → List Item
  | every => [.span .all]
  | one d => [.span (.one (d % 7 + 1))]
  | between a b =>
    if a = 0 ∧ b = 7 then [.span (.between 1 7)]
    else if b = 7 then [.span (.between (a + 1) 7), .span (.one 1)]
    else [.span (.between (a + 1) (b + 1))]
  | everyStep n => [.steps .all n]
  | betweenSteps a b n =>
    if a = 0 ∧ b = 7 then [.steps (.between 1 7) n]
    else if b = 7 then (stepped a 7 n).map fun x => .span (.one (x % 7 + 1))
    else [.steps (.between (a + 1) (b + 1)) n]

theorem normal_between_early {a b : Nat} (hb : b < 7) :
    (between a b).normal = [.span (.between (a + 1) (b + 1))] := by
  rw [normal, if_neg (by omega), if_neg (by omega)]

theorem normal_between_late {a : Nat} (ha : 0 < a) :
    (between a 7).normal = [.span (.between (a + 1) 7), .span (.one 1)] := by
  rw [normal, if_neg (by omega), if_pos rfl]

theorem normal_betweenSteps_early {a b : Nat} (hb : b < 7) (n : Nat) :
    (betweenSteps a b n).normal = [.steps (.between (a + 1) (b + 1)) n] := by
  rw [normal, if_neg (by omega), if_neg (by omega)]

theorem normal_betweenSteps_late {a : Nat} (ha : 0 < a) (n : Nat) :
    (betweenSteps a 7 n).normal = (stepped a 7 n).map fun x => .span (.one (x % 7 + 1)) := by
  rw [normal, if_neg (by omega), if_pos rfl]

end WeekdayItem

/-! ### Numbers -/

theorem isNumeral_of_number? {s : String} {n : Nat} (h : number? s = some n) :
    IsNumeral n s.toList := by
  unfold number? at h
  split at h
  next hdigits =>
    simp only [Bool.and_eq_true, Bool.not_eq_true', List.all_eq_true] at hdigits
    refine ⟨?_, hdigits.2, Option.some.inj h⟩
    simpa [String.isEmpty_iff] using hdigits.1
  next => cases h

theorem isNumeral_toString (n : Nat) : IsNumeral n (toString n).toList := by
  rw [Nat.toString_eq_repr, Nat.toList_repr]
  exact ⟨Nat.toDigits_ne_nil, fun c => isDigit_of_mem_toDigits, Numeral.digitsValue_toDigits n⟩

theorem IsNumeral.not_mem {n : Nat} {s : List Char} (h : IsNumeral n s) {c : Char}
    (hc : c.isDigit = false) : c ∉ s := by
  intro hmem
  exact Bool.false_ne_true (hc.symm.trans (h.digits c hmem))

theorem toList_ne_plus {s : String} {n : Nat} (h : number? s = some n) (rest : List Char) :
    s.toList ≠ '+' :: rest := by
  intro hs
  exact (isNumeral_of_number? h).not_mem (c := '+') (by decide) (hs ▸ List.mem_cons_self)

theorem word?_of_number? {s : String} {n : Nat} (h : number? s = some n) (hn : n ≤ 7) :
    word? s = some (UInt32.ofNat n) := by
  have hbound : n < Word.count 32 := Nat.lt_of_le_of_lt hn (by decide)
  unfold word?
  split
  next rest hs => exact absurd hs (toList_ne_plus h rest)
  next => simp only [h, Option.bind_some, if_pos hbound]

theorem step?_of_number? {s : String} {n : Nat} (h : number? s = some n) (hn : 1 ≤ n ∧ n ≤ 7) :
    step? s = some n := by
  have hbound : (0 < n && n < Word.count 64) = true := by
    have hword : n < Word.count 64 := Nat.lt_of_le_of_lt hn.2 (by decide)
    simp [hword]
    omega
  unfold step?
  split
  next rest hs => exact absurd hs (toList_ne_plus h rest)
  next => simp only [h, Option.filter_some, if_pos hbound]

theorem shiftedText_ofNat {d : Nat} (h : d ≤ 7) :
    shiftedText (UInt32.ofNat d) = .ok (toString (d % 7 + 1)) := by
  interval_cases d <;> rfl

/-! ### Texts taken apart -/

theorem cutText_of_not_mem {c : Char} {s : String} (h : c ∉ s.toList) : cutText c s = none := by
  rw [cutText, Text.cut_eq_none_iff.mpr (mt (List.singleton_infix_iff c s.toList).mp h)]
  rfl

theorem cutText_of_eq {c : Char} {s t u : String} (h : c ∉ s.toList)
    (hu : u.toList = s.toList ++ c :: t.toList) : cutText c u = some (s, t) := by
  rw [cutText, hu, Text.cut_singleton_eq_some_iff.mpr ⟨rfl, h⟩]
  simp

/-! ### Items in their normal form -/

section Normal

variable {range s t : String} {a b n : Nat}

theorem cutText_withStep (h : '/' ∉ range.toList) (step : String) :
    cutText '/' (withStep range (some step)) = some (range, step) :=
  cutText_of_eq h (by simp [withStep])

theorem weekdayItem_every (step : Option String) :
    weekdayItem (withStep "*" step) = .ok (withStep "*" step) := by
  have hfree : '/' ∉ "*".toList := by decide
  have hcut : cutText '-' "*" = none := by decide +kernel
  have hword : word? "*" = none := by decide +kernel
  cases step with
  | none =>
    simp only [weekdayItem, withStep, cutText_of_not_mem hfree, hcut, hword]
    rfl
  | some step =>
    simp only [weekdayItem, cutText_withStep hfree, hcut, hword]
    rfl

theorem weekdayItem_number (h : number? s = some n) (hn : n ≤ 7) :
    weekdayItem s = .ok (toString (n % 7 + 1)) := by
  have hs := isNumeral_of_number? h
  have hslash : cutText '/' s = none := cutText_of_not_mem (hs.not_mem (by decide))
  have hcut : cutText '-' s = none := cutText_of_not_mem (hs.not_mem (by decide))
  simp only [weekdayItem, hslash, hcut, word?_of_number? h hn, withStep, shiftedText_ofNat hn]
  rfl

theorem weekdayItem_range (ha : number? s = some a) (hb : number? t = some b) (hab : a ≤ b)
    (h7 : b ≤ 7) (step : Option String) : weekdayItem (withStep (s ++ "-" ++ t) step) =
      weekdayRange (s ++ "-" ++ t) (UInt32.ofNat a) (UInt32.ofNat b) step := by
  have hs := isNumeral_of_number? ha
  have ht := isNumeral_of_number? hb
  have hfree : '/' ∉ (s ++ "-" ++ t).toList := by
    simp [hs.not_mem, ht.not_mem]
  have hcut : cutText '-' (s ++ "-" ++ t) = some (s, t) :=
    cutText_of_eq (hs.not_mem (by decide)) (by simp)
  have ha := word?_of_number? ha (hab.trans h7)
  have hb := word?_of_number? hb h7
  cases step with
  | none => simp only [weekdayItem, withStep, cutText_of_not_mem hfree, hcut, ha, hb]
  | some step => simp only [weekdayItem, cutText_withStep hfree, hcut, ha, hb]

theorem ofNat_eq_zero_iff (h : a ≤ 7) : UInt32.ofNat a = 0 ↔ a = 0 := by
  interval_cases a <;> decide

theorem ofNat_eq_seven_iff (h : a ≤ 7) : UInt32.ofNat a = 7 ↔ a = 7 := by
  interval_cases a <;> decide

theorem weekdayRange_week (range : String) (step : Option String) :
    weekdayRange range (UInt32.ofNat 0) (UInt32.ofNat 7) step =
      .ok (withStep (toString 1 ++ "-" ++ toString 7) step) := rfl

theorem weekdayRange_early (hab : a ≤ b) (hb : b < 7) (range : String) (step : Option String) :
    weekdayRange range (UInt32.ofNat a) (UInt32.ofNat b) step =
      .ok (withStep (toString (a + 1) ++ "-" ++ toString (b + 1)) step) := by
  have ha : a < 7 := Nat.lt_of_le_of_lt hab hb
  simp only [weekdayRange, ofNat_eq_seven_iff hb.le, hb.ne, and_false, if_false,
    shiftedText_ofNat ha.le, shiftedText_ofNat hb.le, Nat.mod_eq_of_lt ha, Nat.mod_eq_of_lt hb]
  rfl

theorem weekdayRange_late (h0 : 0 < a) (h7 : a ≤ 7) (range : String) :
    weekdayRange range (UInt32.ofNat a) (UInt32.ofNat 7) none =
      .ok (",".intercalate [toString (a + 1) ++ "-" ++ toString 7, toString 1]) := by
  have htexts : ",".intercalate [toString (a + 1) ++ "-" ++ toString 7, toString 1] =
      toString (a + 1) ++ "-7,1" := by
    rw [String.intercalate_cons_cons, String.intercalate_singleton, String.append_assoc,
      String.append_assoc, String.append_assoc]
    rfl
  have hnext : Word.next (UInt32.ofNat a) = .ok (UInt32.ofNat a + 1) := by
    interval_cases a <;> rfl
  have hvalue : wordText (UInt32.ofNat a + 1) = toString (a + 1) := by
    interval_cases a <;> rfl
  rw [htexts, ← hvalue]
  simp only [weekdayRange, ofNat_eq_zero_iff h7, h0.ne', false_and, if_false,
    ofNat_eq_seven_iff le_rfl, if_true, hnext]
  rfl

theorem weekdayRange_late_steps (h0 : 0 < a) (h7 : a ≤ 7) (range : String)
    (hstep : number? s = some n) (hn : 1 ≤ n ∧ n ≤ 7) :
    weekdayRange range (UInt32.ofNat a) (UInt32.ofNat 7) (some s) =
      .ok (",".intercalate ((stepped a 7 n).map fun x => toString (x % 7 + 1))) := by
  have hstart : (UInt32.ofNat a).toNat = a := by
    interval_cases a <;> rfl
  have htexts : (stepped a 7 n).mapM (fun x => shiftedText (UInt32.ofNat x)) =
      .ok ((stepped a 7 n).map fun x => toString (x % 7 + 1)) :=
    Computed.mapM_eq_ok fun x hx => shiftedText_ofNat (mem_stepped.mp hx).1.2
  simp only [weekdayRange, ofNat_eq_zero_iff h7, h0.ne', false_and, if_false,
    ofNat_eq_seven_iff le_rfl, if_true, step?_of_number? hstep hn, untilSunday, hstart, htexts]
  rfl

end Normal

theorem cons_intercalate {texts : List String} (h : texts ≠ []) :
    ',' :: (",".intercalate texts).toList = texts.flatMap fun text => ',' :: text.toList := by
  induction texts with
  | nil => exact absurd rfl h
  | cons text texts ih =>
    cases texts with
    | nil => simp
    | cons next more =>
      rw [String.intercalate_cons_cons, List.flatMap_cons, ← ih (by simp)]
      simp

theorem listed_map {α : Type} {f : Field} {item : α → Item} {text : α → String} {xs : List α}
    (h : ∀ x ∈ xs, (item x).Spelled f (text x).toList) :
    Listed f (xs.map item) ((xs.map text).flatMap fun t => ',' :: t.toList) := by
  induction xs with
  | nil => exact .nil
  | cons x xs ih =>
    exact (h x List.mem_cons_self).listed.append (ih fun y hy => h y (List.mem_cons_of_mem x hy))

theorem spelled_one (f : Field) (n : Nat) :
    Item.Spelled f (.span (.one n)) (toString n).toList :=
  .span (.one (isNumeral_toString n))

theorem spelled_between (f : Field) (a b : Nat) :
    Span.Spelled f (.between a b) (toString a ++ "-" ++ toString b).toList := by
  have hspan := Span.Spelled.between (f := f) (isNumeral_toString a) (isNumeral_toString b)
  simpa using hspan

theorem spelled_withStep {f : Field} {span : Span} {range s : String} {n : Nat}
    (h : span.Spelled f range.toList) (hs : number? s = some n) :
    Item.Spelled f (.steps span n) (withStep range (some s)).toList := by
  have hitem := Item.Spelled.steps h (isNumeral_of_number? hs)
  simpa [withStep] using hitem

/-- A range covers the week, or it ends on Sunday, or it ends before. -/
theorem range_cases {a b : Nat} (h : b ≤ 7) :
    (a = 0 ∧ b = 7) ∨ (0 < a ∧ b = 7) ∨ b < 7 := by
  omega

theorem spelled_weekdayItem {item : WeekdayItem} {text : String} (h : item.Written text)
    (hvalid : item.IsValid) :
    ∃ normal, weekdayItem text = .ok normal ∧ Field.weekday.Spelled item.normal normal.toList := by
  cases h with
  | every => exact ⟨"*", weekdayItem_every none, (Item.Spelled.span .all).listed⟩
  | one h => exact ⟨_, weekdayItem_number h hvalid.last_le, (spelled_one _ _).listed⟩
  | @everyStep n s h =>
    exact ⟨_, weekdayItem_every (some s), (spelled_withStep .all h).listed⟩
  | @between a b s t ha hb =>
    have hab : a ≤ b := hvalid.ordered
    have h7 : b ≤ 7 := hvalid.last_le
    have htext : weekdayItem (s ++ "-" ++ t) = _ := weekdayItem_range ha hb hab h7 none
    rcases range_cases (a := a) h7 with ⟨rfl, rfl⟩ | ⟨h0, rfl⟩ | hb7
    · exact ⟨_, htext.trans (weekdayRange_week _ _),
        (Item.Spelled.span (spelled_between _ 1 7)).listed⟩
    · refine ⟨_, htext.trans (weekdayRange_late h0 hab _), ?_⟩
      rw [WeekdayItem.normal_between_late h0, Field.Spelled,
        cons_intercalate (List.cons_ne_nil _ _)]
      exact (Item.Spelled.span (spelled_between _ (a + 1) 7)).listed.append
        (spelled_one _ 1).listed
    · refine ⟨_, htext.trans (weekdayRange_early hab hb7 _ _), ?_⟩
      rw [WeekdayItem.normal_between_early hb7]
      exact (Item.Spelled.span (spelled_between _ (a + 1) (b + 1))).listed
  | @betweenSteps a b n s t u ha hb hn =>
    have hab : a ≤ b := hvalid.ordered
    have h7 : b ≤ 7 := hvalid.last_le
    have hstep : 1 ≤ n ∧ n ≤ 7 := ⟨hvalid.step_pos, hvalid.step_le⟩
    have htext : weekdayItem (s ++ "-" ++ t ++ "/" ++ u) = _ :=
      weekdayItem_range ha hb hab h7 (some u)
    rcases range_cases (a := a) h7 with ⟨rfl, rfl⟩ | ⟨h0, rfl⟩ | hb7
    · exact ⟨_, htext.trans (weekdayRange_week _ _),
        (spelled_withStep (spelled_between _ 1 7) hn).listed⟩
    · have hne : ((stepped a 7 n).map fun x => toString (x % 7 + 1)) ≠ [] := by
        have hmem : a ∈ stepped a 7 n := mem_stepped.mpr ⟨⟨le_rfl, hab⟩, by simp⟩
        simpa using List.ne_nil_of_mem hmem
      refine ⟨_, htext.trans (weekdayRange_late_steps h0 hab _ hn hstep), ?_⟩
      rw [WeekdayItem.normal_betweenSteps_late h0, Field.Spelled, cons_intercalate hne]
      exact listed_map fun x _ => spelled_one Field.weekday (x % 7 + 1)
    · refine ⟨_, htext.trans (weekdayRange_early hab hb7 _ _), ?_⟩
      rw [WeekdayItem.normal_betweenSteps_early hb7]
      exact (spelled_withStep (spelled_between _ (a + 1) (b + 1)) hn).listed

theorem spelled_normalWeekdays {items : List WeekdayItem} {weekday : String}
    (hitems : List.Forall₂ WeekdayItem.Written items (splitText ',' weekday))
    (hvalid : ∀ item ∈ items, item.IsValid) :
    ∃ normal, normalWeekdays weekday = .ok normal ∧
      Field.weekday.Spelled (items.flatMap WeekdayItem.normal) normal.toList := by
  have hsplit : splitText ',' weekday ≠ [] := by
    simpa [splitText] using Text.splitAt_ne_nil ',' weekday.toList
  have htexts : ∃ texts, (splitText ',' weekday).mapM weekdayItem = .ok texts ∧
      texts.length = (splitText ',' weekday).length ∧
      Listed Field.weekday (items.flatMap WeekdayItem.normal)
        (texts.flatMap fun text => ',' :: text.toList) := by
    clear hsplit
    generalize splitText ',' weekday = parts at hitems
    induction hitems with
    | nil => exact ⟨[], rfl, rfl, .nil⟩
    | cons hitem _ ih =>
      obtain ⟨hfirst, hrest⟩ := List.forall_mem_cons.mp hvalid
      obtain ⟨text, htext, hspelled⟩ := spelled_weekdayItem hitem hfirst
      obtain ⟨texts, htexts, hlength, hlisted⟩ := ih hrest
      refine ⟨text :: texts, ?_, congrArg (· + 1) hlength, hspelled.append hlisted⟩
      rw [List.mapM_cons, htext, htexts]
      rfl
  obtain ⟨texts, htexts, hlength, hlisted⟩ := htexts
  have hne : texts ≠ [] := by
    rw [← List.length_pos_iff, hlength]
    exact List.length_pos_iff.mpr hsplit
  refine ⟨",".intercalate texts, by rw [normalWeekdays, htexts]; rfl, ?_⟩
  rw [Field.Spelled, cons_intercalate hne]
  exact hlisted

/-! ### The weekdays of an item -/

section Values

variable {a b d n step : Nat}

theorem holds_weekday_iff : Field.weekday.holds n = true ↔ 1 ≤ n ∧ n ≤ 7 := Field.holds_iff

theorem holds_shifted (d : Nat) : Field.weekday.holds (d % 7 + 1) = true :=
  holds_weekday_iff.mpr (by omega)

theorem has_one (h : Field.weekday.holds d = true) :
    Field.weekday.Has (.span (.one d)) n ↔ n = d := by
  rw [Field.has_iff (Field.valuesOf?_one h)]
  simp only [one_dvd, and_true]
  omega

theorem counted_early (hb : b < 7) : ((a + 1 ≤ n ∧ n ≤ b + 1) ∧ step ∣ n - (a + 1)) ↔
    ∃ x, ((a ≤ x ∧ x ≤ b) ∧ step ∣ x - a) ∧ n = x % 7 + 1 := by
  constructor
  · rintro ⟨hn, hstep⟩
    refine ⟨n - 1, ⟨by omega, ?_⟩, by omega⟩
    rwa [show n - 1 - a = n - (a + 1) by omega]
  · rintro ⟨x, ⟨hx, hstep⟩, rfl⟩
    rw [Nat.mod_eq_of_lt (by omega), Nat.add_sub_add_right]
    exact ⟨by omega, hstep⟩

theorem counted_week : ((1 ≤ n ∧ n ≤ 7) ∧ step ∣ n - 1) ↔
    ∃ x, ((0 ≤ x ∧ x ≤ 7) ∧ step ∣ x - 0) ∧ n = x % 7 + 1 := by
  rw [counted_early (a := 0) (b := 6) (by decide)]
  constructor
  · rintro ⟨x, ⟨hx, hstep⟩, rfl⟩
    exact ⟨x, ⟨by omega, hstep⟩, rfl⟩
  · rintro ⟨x, ⟨hx, hstep⟩, rfl⟩
    by_cases h7 : x = 7
    · exact ⟨0, ⟨by omega, by simp⟩, by omega⟩
    · exact ⟨x, ⟨by omega, hstep⟩, rfl⟩

/-- A range that ends on Sunday as 7 is one that ends on Saturday, and Sunday. -/
theorem counted_late (ha : a ≤ 7) : ((a + 1 ≤ n ∧ n ≤ 7) ∨ n = 1) ↔
    ∃ x, ((a ≤ x ∧ x ≤ 7) ∧ 1 ∣ x - a) ∧ n = x % 7 + 1 := by
  constructor
  · rintro (hn | rfl)
    · exact ⟨n - 1, ⟨by omega, one_dvd _⟩, by omega⟩
    · exact ⟨7, ⟨by omega, one_dvd _⟩, rfl⟩
  · rintro ⟨x, ⟨hx, -⟩, rfl⟩
    omega

theorem bounds?_weekdays (ha : 1 ≤ a) (hab : a ≤ b) (hb : b ≤ 7) :
    Field.weekday.bounds? 7 (.between a b) = some (a, b) :=
  Field.bounds?_between (holds_weekday_iff.mpr ⟨ha, hab.trans hb⟩)
    (holds_weekday_iff.mpr ⟨ha.trans hab, hb⟩) hab 7

structure WeekdayItem.KeepsDays (item : WeekdayItem) : Prop where
  found : ∀ i ∈ item.normal, ∃ found, Field.weekday.valuesOf? i = some found
  has_iff : ∀ n, (∃ i ∈ item.normal, Field.weekday.Has i n) ↔ ∃ x, item.Counts x ∧ n = x % 7 + 1

theorem WeekdayItem.keepsDays_of_single {item : WeekdayItem} {i : Item}
    (hnormal : item.normal = [i])
    (hvalues : Field.weekday.valuesOf? i = some (stepped a b step))
    (hcounts : ∀ n, ((a ≤ n ∧ n ≤ b) ∧ step ∣ n - a) ↔ ∃ x, item.Counts x ∧ n = x % 7 + 1) :
    item.KeepsDays := by
  refine ⟨?_, fun n => ?_⟩
  · simp [hnormal, hvalues]
  · simp only [hnormal, List.mem_singleton, exists_eq_left, Field.has_iff hvalues, hcounts]

theorem WeekdayItem.keepsDays {item : WeekdayItem} (hvalid : item.IsValid)
    (hne : item ≠ .between 7 7) : item.KeepsDays := by
  cases item with
  | every => exact keepsDays_of_single rfl rfl fun n => counted_week
  | one d =>
    refine keepsDays_of_single rfl (Field.valuesOf?_one (holds_shifted d)) fun n => ?_
    constructor
    · rintro ⟨hn, -⟩
      exact ⟨d, ⟨⟨le_rfl, le_rfl⟩, one_dvd _⟩, by omega⟩
    · rintro ⟨x, ⟨⟨hfirst, hlast⟩, -⟩, rfl⟩
      obtain rfl : x = d := le_antisymm hlast hfirst
      exact ⟨⟨le_rfl, le_rfl⟩, one_dvd _⟩
  | everyStep n =>
    refine keepsDays_of_single rfl (Field.valuesOf?_steps rfl ⟨hvalid.step_pos, hvalid.step_le⟩) ?_
    exact fun n => counted_week
  | between a b =>
    have hab : a ≤ b := hvalid.ordered
    rcases range_cases (a := a) (b := b) hvalid.last_le with ⟨rfl, rfl⟩ | ⟨h0, rfl⟩ | hb7
    · exact keepsDays_of_single (i := .span (.between 1 7)) rfl rfl fun n => counted_week
    · -- One more than a is a weekday only if the range does not start on Sunday as 7.
      have h7 : a ≠ 7 := fun h => hne (by rw [h])
      have hnormal := normal_between_late h0
      have hlong := Field.valuesOf?_between
        (bounds?_weekdays (a := a + 1) (b := 7) (by omega) (by omega) le_rfl)
      have hsunday : Field.weekday.holds 1 = true := by decide
      refine ⟨?_, fun n => ?_⟩
      · simp [hnormal, hlong, Field.valuesOf?_one hsunday]
      · simp only [hnormal, List.mem_cons, List.not_mem_nil, or_false, exists_eq_or_imp,
          exists_eq_left, Field.has_iff hlong, one_dvd, and_true, has_one hsunday]
        exact counted_late hab
    · exact keepsDays_of_single (normal_between_early hb7)
        (Field.valuesOf?_between (bounds?_weekdays (by omega) (by omega) (by omega)))
        fun n => counted_early hb7
  | betweenSteps a b n =>
    have hab : a ≤ b := hvalid.ordered
    have hstep : 1 ≤ n ∧ n ≤ 7 := ⟨hvalid.step_pos, hvalid.step_le⟩
    rcases range_cases (a := a) (b := b) hvalid.last_le with ⟨rfl, rfl⟩ | ⟨h0, rfl⟩ | hb7
    · exact keepsDays_of_single (i := .steps (.between 1 7) n) rfl (Field.valuesOf?_steps rfl hstep)
        fun n => counted_week
    · have hnormal := normal_betweenSteps_late h0 n
      have hfound : ∀ x, Field.weekday.valuesOf? (.span (.one (x % 7 + 1))) = some _ :=
        fun x => Field.valuesOf?_one (holds_shifted x)
      refine ⟨?_, fun m => ?_⟩
      · simp [hnormal, hfound]
      · simp [hnormal, has_one (holds_shifted _), mem_stepped, Counts, first, last, step]
    · exact keepsDays_of_single (normal_betweenSteps_early hb7 n)
        (Field.valuesOf?_steps (bounds?_weekdays (by omega) (by omega) (by omega)) hstep)
        fun n => counted_early hb7

end Values

/-! ### Expressions of five fields -/

theorem valuesOf?_eq_none_of_mem {items : List WeekdayItem} (h : .between 7 7 ∈ items) :
    Field.weekday.values? (items.flatMap WeekdayItem.normal) = none := by
  have hmem : Item.span (.between 8 7) ∈ items.flatMap WeekdayItem.normal :=
    List.mem_flatMap.mpr ⟨.between 7 7, h, by decide⟩
  exact Field.values?_eq_none hmem (by decide)

theorem mem_years_iff {years : List Nat} (h : Field.year.values? [.span .all] = some years)
    (n : Nat) : n ∈ years ↔ leastYear ≤ n ∧ n ≤ greatestYear := by
  have hall : Field.year.valuesOf? (.span .all) = some (stepped leastYear greatestYear 1) := rfl
  have hfound : ∀ item ∈ [Item.span .all], ∃ found, Field.year.valuesOf? item = some found := by
    simp [hall]
  obtain ⟨values, hvalues, hmem⟩ := Field.exists_values hfound
  obtain rfl := Option.some.inj (h.symm.trans hvalues)
  rw [hmem]
  simp only [List.mem_singleton, exists_eq_left, Field.has_iff hall, one_dvd, and_true]
  exact ⟨And.right, fun hn => ⟨hn.2, hn⟩⟩

/-- An expression of five fields, the first four of which have values and the last of which is a
list of items counted from 0 to 7, is accepted if none of them is the range from 7 to 7, with the
values of its fields and the weekdays that the items count off, Sunday being both 0 and 7. With the
range from 7 to 7 it is refused. -/
theorem weekdays_counted_off {text minute hour day month weekday : String}
    {minutes hours days months : List Nat} {items : List WeekdayItem}
    (hfields : fieldsOf text = [minute, hour, day, month, weekday])
    (hminute : Field.minute.Reads minute minutes) (hhour : Field.hour.Reads hour hours)
    (hday : Field.day.Reads day days) (hmonth : Field.month.Reads month months)
    (hitems : List.Forall₂ WeekdayItem.Written items (splitText ',' weekday))
    (hvalid : ∀ item ∈ items, item.IsValid) :
    (.between 7 7 ∉ items → ∃ c, Cron.parse text = .ok (.ok c) ∧ c.seconds = [0] ∧
      c.minutes = minutes ∧ c.hours = hours ∧ c.days = days ∧ c.months = months ∧
      (∀ n, n ∈ c.weekdays ↔ ∃ item ∈ items, ∃ x, item.Counts x ∧ n = x % 7 + 1) ∧
      ∀ n, n ∈ c.years ↔ leastYear ≤ n ∧ n ≤ greatestYear) ∧
    (.between 7 7 ∈ items → Cron.parse text = .ok (.error (.invalidCron text .invalid))) := by
  obtain ⟨normal, hnormal, hspelled⟩ := spelled_normalWeekdays hitems hvalid
  obtain ⟨years, hyears, hread⟩ := read_five hfields hminute hhour hday hmonth hnormal hspelled
  constructor
  · intro hnot
    have hkeeps : ∀ item ∈ items, item.KeepsDays := fun item hitem =>
      WeekdayItem.keepsDays (hvalid item hitem) fun h => hnot (h ▸ hitem)
    have hfound : ∀ i ∈ items.flatMap WeekdayItem.normal,
        ∃ found, Field.weekday.valuesOf? i = some found := by
      intro i hi
      obtain ⟨item, hitem, hi⟩ := List.mem_flatMap.mp hi
      exact (hkeeps item hitem).found i hi
    obtain ⟨weekdays, hweekdays, hmem⟩ := Field.exists_values hfound
    rw [hweekdays] at hread
    refine ⟨_, by rw [Cron.parse, hread]; rfl, rfl, rfl, rfl, rfl, rfl, fun n => ?_,
      mem_years_iff hyears⟩
    have hdays : (∃ i ∈ items.flatMap WeekdayItem.normal, Field.weekday.Has i n) ↔
        ∃ item ∈ items, ∃ x, item.Counts x ∧ n = x % 7 + 1 := by
      constructor
      · rintro ⟨i, hi, hhas⟩
        obtain ⟨item, hitem, hi⟩ := List.mem_flatMap.mp hi
        exact ⟨item, hitem, ((hkeeps item hitem).has_iff n).mp ⟨i, hi, hhas⟩⟩
      · rintro ⟨item, hitem, hcounts⟩
        obtain ⟨i, hi, hhas⟩ := ((hkeeps item hitem).has_iff n).mpr hcounts
        exact ⟨i, List.mem_flatMap.mpr ⟨item, hitem, hi⟩, hhas⟩
    rw [hmem, hdays]
    refine ⟨And.right, fun hn => ⟨?_, hn⟩⟩
    obtain ⟨-, -, x, -, rfl⟩ := hn
    exact Nat.mod_lt x (by decide)
  · intro hmem
    rw [valuesOf?_eq_none_of_mem hmem] at hread
    rw [Cron.parse, hread]
    rfl

/-- On Sundays, Tuesdays, Wednesdays, Fridays and Saturdays. -/
theorem weekdays_counted_off_listed :
    ∃ c, Cron.parse "*/30 9-11 ? jan,MAR 0,2-3,*/5,5-7/2,6-7" = .ok (.ok c) ∧
      c.minutes = [0, 30] ∧ c.hours = [9, 10, 11] ∧ c.months = [1, 3] ∧
      ∀ n, n ∈ c.weekdays ↔ n = 1 ∨ n = 3 ∨ n = 4 ∨ n = 6 ∨ n = 7 := by
  have hfields : fieldsOf "*/30 9-11 ? jan,MAR 0,2-3,*/5,5-7/2,6-7" =
      ["*/30", "9-11", "?", "jan,MAR", "0,2-3,*/5,5-7/2,6-7"] := by decide +kernel
  have htexts : splitText ',' "0,2-3,*/5,5-7/2,6-7" = ["0", "2" ++ "-" ++ "3", "*" ++ "/" ++ "5",
      "5" ++ "-" ++ "7" ++ "/" ++ "2", "6" ++ "-" ++ "7"] := by decide +kernel
  have hitems : List.Forall₂ WeekdayItem.Written
      [.one 0, .between 2 3, .everyStep 5, .betweenSteps 5 7 2, .between 6 7]
      (splitText ',' "0,2-3,*/5,5-7/2,6-7") := by
    rw [htexts]
    exact .cons (.one (by decide +kernel)) (.cons (.between (by decide +kernel) (by decide +kernel))
      (.cons (.everyStep (by decide +kernel))
        (.cons (.betweenSteps (by decide +kernel) (by decide +kernel) (by decide +kernel))
          (.cons (.between (by decide +kernel) (by decide +kernel)) .nil))))
  have hvalid : ∀ item ∈ [WeekdayItem.one 0, .between 2 3, .everyStep 5, .betweenSteps 5 7 2,
      .between 6 7], item.IsValid := by
    intro item hitem
    simp only [List.mem_cons, List.not_mem_nil, or_false] at hitem
    rcases hitem with rfl | rfl | rfl | rfl | rfl <;>
      exact ⟨by decide, by decide, by decide, by decide⟩
  obtain ⟨c, hparse, -, hminutes, hhours, -, hmonths, hweekdays, -⟩ :=
    (weekdays_counted_off hfields (show Field.minute.Reads "*/30" [0, 30] by decide +kernel)
      (show Field.hour.Reads "9-11" [9, 10, 11] by decide +kernel)
      (show Field.day.Reads "?" (stepped 1 31 1) by decide +kernel)
      (show Field.month.Reads "jan,MAR" [1, 3] by decide +kernel) hitems hvalid).1 (by decide)
  refine ⟨c, hparse, hminutes, hhours, hmonths, fun n => ?_⟩
  rw [hweekdays]
  simp only [List.mem_cons, List.not_mem_nil, or_false, exists_eq_or_imp, exists_eq_left,
    WeekdayItem.Counts, WeekdayItem.first, WeekdayItem.last, WeekdayItem.step]
  constructor
  · rintro (⟨x, hx, rfl⟩ | ⟨x, hx, rfl⟩ | ⟨x, hx, rfl⟩ | ⟨x, hx, rfl⟩ | ⟨x, hx, rfl⟩) <;> omega
  · rintro (rfl | rfl | rfl | rfl | rfl)
    · exact .inl ⟨0, by decide⟩
    · exact .inr (.inl ⟨2, by decide⟩)
    · exact .inr (.inl ⟨3, by decide⟩)
    · exact .inr (.inr (.inl ⟨5, by decide⟩))
    · exact .inr (.inr (.inr (.inr ⟨6, by decide⟩)))

/-- The range from 7 to 7 counts off Sunday as one from 7 to 7 at a step does, but it alone is
refused. -/
theorem range_of_sunday_refused :
    fieldsOf "0 9 * * 7-7" = ["0", "9", "*", "*", "7-7"] ∧ Field.minute.Reads "0" [0] ∧
    Field.hour.Reads "9" [9] ∧ Field.day.Reads "*" (stepped 1 31 1) ∧
    Field.month.Reads "*" (stepped 1 12 1) ∧ splitText ',' "7-7" = ["7-7"] ∧
    WeekdayItem.Written (.between 7 7) "7-7" ∧ (WeekdayItem.between 7 7).IsValid ∧
    (∀ x, (WeekdayItem.between 7 7).Counts x ↔ x = 7) ∧ normalWeekdays "7-7" = .ok "8-7,1" ∧
    Cron.parse "0 9 * * 7-7" = .ok (.error (.invalidCron "0 9 * * 7-7" .invalid)) ∧
    (Cron.parse "0 9 * * 7-7/1").map (Except.map (·.weekdays)) = .ok (.ok [1]) := by
  have hseven : number? "7" = some 7 := by decide +kernel
  refine ⟨by decide +kernel, by decide +kernel, by decide +kernel, by decide +kernel,
    by decide +kernel, by decide +kernel, WeekdayItem.Written.between hseven hseven,
    ⟨by decide, by decide, by decide, by decide⟩, fun x => ?_, by decide +kernel, by decide +kernel,
    by decide +kernel⟩
  simp only [WeekdayItem.Counts, WeekdayItem.first, WeekdayItem.last, WeekdayItem.step, one_dvd,
    and_true]
  omega

end Runbook.Cron
