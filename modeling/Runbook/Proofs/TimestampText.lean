import Mathlib.Tactic.IntervalCases
import Runbook.Proofs.DecimalText
import Runbook.Time.Civil
import Runbook.Time.Reading

/-!
The calendar, and instants and their texts. The days of 400 years fall into centuries, spans of four
years, years and days of a year, with the leap day at the end of all but three spans. Main
statements: the date of a number of days is a day of the calendar, and it lies that number of days
after the start; days are in the order of their years, months and days of the month; an instant that
a clock shows is what its text is read as, and every instant that is read from a text is one that a
clock shows.
-/

namespace Runbook.CivilDate

/-- A day of the 400 years in which the calendar repeats, counted from the first of March. -/
structure EraDay where
  century : Int
  span : Int
  year : Int
  day : Int
  century_range : 0 ≤ century ∧ century ≤ 3
  span_range : 0 ≤ span ∧ span ≤ 24
  year_range : 0 ≤ year ∧ year ≤ 3
  day_range : 0 ≤ day ∧ day ≤ 365
  /-- The leap day ends the fourth year of a span, but not of the last one of the first three
  centuries. -/
  leap : day = 365 → year = 3 ∧ (span < 24 ∨ century = 3)

namespace EraDay

/-- The days of the 400 years that are over. -/
def count (p : EraDay) : Int := 36524 * p.century + 1461 * p.span + 365 * p.year + p.day

/-- The years that are over. -/
def years (p : EraDay) : Int := 100 * p.century + 4 * p.span + p.year

theorem exists_of_count {n : Int} (hn : 0 ≤ n) (hlt : n < 146097) : ∃ p : EraDay, p.count = n := by
  obtain ⟨c, r, rfl, hc, hr, hr0, hleap⟩ : ∃ c r : Int, n = 36524 * c + r ∧ (0 ≤ c ∧ c ≤ 3) ∧
      (0 ≤ r ∧ r ≤ 36524) ∧ 0 ≤ r ∧ (r = 36524 → c = 3) :=
    ⟨min (n / 36524) 3, n - 36524 * min (n / 36524) 3, by omega⟩
  obtain ⟨q, s, rfl, hq, hs, hspan⟩ : ∃ q s : Int, r = 1461 * q + s ∧ (0 ≤ q ∧ q ≤ 24) ∧
      (0 ≤ s ∧ s ≤ 1460) ∧ (s = 1460 → q < 24 ∨ c = 3) := ⟨r / 1461, r % 1461, by omega⟩
  obtain ⟨z, d, rfl, hz, hd, hyear⟩ : ∃ z d : Int, s = 365 * z + d ∧ (0 ≤ z ∧ z ≤ 3) ∧
      (0 ≤ d ∧ d ≤ 365) ∧ (d = 365 → z = 3) :=
    ⟨min (s / 365) 3, s - 365 * min (s / 365) 3, by omega⟩
  refine ⟨⟨c, q, z, d, hc, hq, hz, hd, ?_⟩, by simp only [count]; omega⟩
  intro h
  exact ⟨hyear h, hspan (by have := hyear h; omega)⟩

variable (p : EraDay)

theorem years_range : 0 ≤ p.years ∧ p.years ≤ 399 := by
  obtain ⟨c, q, z, d, hc, hq, hz, hd, hleap⟩ := p
  simp only [years]
  omega

theorem century_eq : p.count / 36524 - p.count / 146096 = p.century := by
  obtain ⟨c, q, z, d, hc, hq, hz, hd, hleap⟩ := p
  simp only [count]
  obtain ⟨r, hr⟩ : ∃ r, r = 1461 * q + 365 * z + d := ⟨_, rfl⟩
  have hcases : 0 ≤ r ∧ (r < 36524 ∨ c = 3 ∧ r = 36524) := by omega
  rw [show 36524 * c + 1461 * q + 365 * z + d = 36524 * c + r by omega]
  clear hr
  omega

theorem shortSpans_eq : ∃ t, p.count / 1460 = 25 * p.century + p.span + t ∧ 0 ≤ p.day - t ∧
    p.day - t ≤ 364 := by
  obtain ⟨c, q, z, d, hc, hq, hz, hd, hleap⟩ := p
  simp only [count]
  refine ⟨(24 * c + q + 365 * z + d) / 1460, by omega, ?_⟩
  by_cases h : 1460 ≤ 24 * c + q + 365 * z + d
  · have hone : (24 * c + q + 365 * z + d) / 1460 = 1 := by omega
    omega
  · have hzero : (24 * c + q + 365 * z + d) / 1460 = 0 := by omega
    omega

theorem years_eq :
    (p.count - p.count / 1460 + p.count / 36524 - p.count / 146096) / 365 = p.years := by
  obtain ⟨t, ht, hlow, hhigh⟩ := p.shortSpans_eq
  have hsum : p.count - p.count / 1460 + p.count / 36524 - p.count / 146096 =
      365 * p.years + (p.day - t) := by
    have hc := p.century_eq
    rw [ht]
    simp only [count, years] at hc ⊢
    omega
  rw [hsum]
  omega

theorem day_eq : p.count - (365 * p.years + p.years / 4 - p.years / 100) = p.day := by
  obtain ⟨c, q, z, d, hc, hq, hz, hd, hleap⟩ := p
  have hfour : (100 * c + 4 * q + z) / 4 = 25 * c + q := by omega
  have hhundred : (100 * c + 4 * q + z) / 100 = c := by omega
  simp only [count, years]
  omega

end EraDay

def monthOfDay (day : Int) : Int := (5 * day + 2) / 153

def ofEraDay (era : Int) (p : EraDay) : CivilDate :=
  let m := monthOfDay p.day
  let month := if m < 10 then m + 3 else m - 9
  ⟨400 * era + p.years + if month ≤ 2 then 1 else 0, month.toNat,
    (p.day - daysBeforeMonth m + 1).toNat⟩

theorem ofDays_eq (days : Int) : ∃ era p, days + epoch = 146097 * era + EraDay.count p ∧
    ofDays days = ofEraDay era p := by
  obtain ⟨p, hp⟩ := EraDay.exists_of_count (n := (days + epoch) % 146097) (by omega) (by omega)
  refine ⟨(days + epoch) / 146097, p, by omega, ?_⟩
  simp only [ofDays, ofEraDay, ← hp, p.years_eq, p.day_eq, monthOfDay]
  rfl

theorem monthOfDay_range (p : EraDay) : 0 ≤ monthOfDay p.day ∧ monthOfDay p.day ≤ 11 := by
  have hday := p.day_range
  simp only [monthOfDay]
  omega

theorem daysBeforeMonth_monthOfDay (p : EraDay) :
    daysBeforeMonth (monthOfDay p.day) ≤ p.day ∧
      p.day < daysBeforeMonth (monthOfDay p.day + 1) := by
  have hday := p.day_range
  simp only [monthOfDay, daysBeforeMonth]
  omega

theorem daysBeforeYear_add (era : Int) (p : EraDay) :
    daysBeforeYear (400 * era + p.years) + p.day = 146097 * era + p.count := by
  have hday := p.day_eq
  have hyears := p.years_range
  simp only [daysBeforeYear]
  omega

theorem toDays_ofEraDay (era : Int) (p : EraDay) :
    (ofEraDay era p).toDays = 146097 * era + p.count - epoch := by
  have hyear := daysBeforeYear_add era p
  have hrange := monthOfDay_range p
  have hday := (daysBeforeMonth_monthOfDay p).1
  obtain ⟨m, hmonth⟩ : ∃ m, monthOfDay p.day = m := ⟨_, rfl⟩
  rw [hmonth] at hrange hday
  simp only [ofEraDay, toDays, hmonth]
  by_cases hm : m < 10
  · have hlate : ¬ m + 3 ≤ 2 := by omega
    have hnat : ¬ (m + 3).toNat ≤ 2 := by omega
    simp only [hm, hlate, hnat, ↓reduceIte, Int.add_zero]
    rw [show ((m + 3).toNat : Int) - 3 = m by omega]
    omega
  · have hearly : m - 9 ≤ 2 := by omega
    have hnat : (m - 9).toNat ≤ 2 := by omega
    simp only [hm, hearly, hnat, ↓reduceIte]
    rw [show ((m - 9).toNat : Int) + 9 = m by omega, Int.add_sub_cancel]
    omega

theorem isValid_ofEraDay (era : Int) (p : EraDay) : (ofEraDay era p).isValid = true := by
  have hrange := monthOfDay_range p
  have hday := daysBeforeMonth_monthOfDay p
  obtain ⟨c, q, z, d, hc, hq, hz, hd, hleap⟩ := p
  simp only [isValid, ofEraDay, Bool.and_eq_true, decide_eq_true_eq, EraDay.years,
    daysBeforeMonth] at hrange hday ⊢
  generalize monthOfDay d = m at hrange hday
  obtain ⟨hm0, hm11⟩ := hrange
  interval_cases m <;> simp [daysInMonth, isLeapYear] <;> omega

theorem isValid_ofDays (days : Int) : (ofDays days).isValid = true := by
  obtain ⟨era, p, -, h⟩ := ofDays_eq days
  rw [h]
  exact isValid_ofEraDay era p

theorem lt_of_isValid {d : CivilDate} (h : d.isValid = true) : d.month < 100 ∧ d.day < 100 := by
  have hlen : daysInMonth d.year d.month ≤ 31 := by
    unfold daysInMonth
    split <;> (try split) <;> omega
  simp only [isValid, Bool.and_eq_true, decide_eq_true_eq] at h
  omega

/-- The date of a number of days lies that number of days after the start. -/
@[simp] theorem toDays_ofDays (days : Int) : (ofDays days).toDays = days := by
  obtain ⟨era, p, hdays, h⟩ := ofDays_eq days
  rw [h, toDays_ofEraDay]
  omega

/-! ### The order of dates -/

variable {d e : CivilDate}

theorem isValid_iff : d.isValid = true ↔
    (1 ≤ d.month ∧ d.month ≤ 12) ∧ 1 ≤ d.day ∧ d.day ≤ daysInMonth d.year d.month := by
  simp only [isValid, Bool.and_eq_true, decide_eq_true_eq]
  tauto

/-- The number of the month of a date, counted from the March of the year 0. -/
def monthNumber (d : CivilDate) : Int := 12 * d.year + d.month - 3

/-- The days before the month of a number, from the first of March of the year 0 on. -/
def daysBefore (k : Int) : Int := daysBeforeYear (k / 12) + daysBeforeMonth (k % 12)

theorem toDays_eq (h : d.isValid = true) :
    d.toDays = daysBefore d.monthNumber + d.day - 1 - epoch := by
  obtain ⟨⟨hfirst, hlast⟩, -⟩ := isValid_iff.mp h
  by_cases hearly : d.month ≤ 2
  · have hyear : d.monthNumber / 12 = d.year - 1 := by
      simp only [monthNumber]
      omega
    have hmonth : d.monthNumber % 12 = d.month + 9 := by
      simp only [monthNumber]
      omega
    simp only [toDays, daysBefore, hyear, hmonth, if_pos hearly]
  · have hyear : d.monthNumber / 12 = d.year := by
      simp only [monthNumber]
      omega
    have hmonth : d.monthNumber % 12 = d.month - 3 := by
      simp only [monthNumber]
      omega
    simp only [toDays, daysBefore, hyear, hmonth, if_neg hearly]

theorem daysBefore_succ (h : d.isValid = true) : daysBefore (d.monthNumber + 1) =
    daysBefore d.monthNumber + daysInMonth d.year d.month := by
  obtain ⟨⟨hfirst, hlast⟩, -⟩ := isValid_iff.mp h
  obtain ⟨year, month, day⟩ := d
  simp only [monthNumber, daysBefore, daysBeforeYear, daysBeforeMonth] at *
  interval_cases month <;> simp [daysInMonth, isLeapYear] <;> omega

theorem daysBefore_le_succ (k : Int) : daysBefore k ≤ daysBefore (k + 1) := by
  simp only [daysBefore, daysBeforeYear, daysBeforeMonth]
  omega

theorem daysBefore_mono {k l : Int} (h : k ≤ l) : daysBefore k ≤ daysBefore l := by
  induction l, h using Int.leInduction with
  | base => exact le_rfl
  | succ l _ ih => exact ih.trans (daysBefore_le_succ l)

theorem toDays_lt_of_month (hd : d.isValid = true) (he : e.isValid = true)
    (h : d.monthNumber < e.monthNumber) : d.toDays < e.toDays := by
  have hnext := daysBefore_mono (show d.monthNumber + 1 ≤ e.monthNumber from h)
  have hlast := (isValid_iff.mp hd).2.2
  have hfirst := (isValid_iff.mp he).2.1
  rw [daysBefore_succ hd] at hnext
  rw [toDays_eq hd, toDays_eq he]
  omega

/-- Days are in the order of their dates: years first, then months, then days of the month. -/
theorem toDays_lt_iff (hd : d.isValid = true) (he : e.isValid = true) :
    d.toDays < e.toDays ↔ d.year < e.year ∨
      d.year = e.year ∧ (d.month < e.month ∨ d.month = e.month ∧ d.day < e.day) := by
  have hmonth := (isValid_iff.mp hd).1
  have hmonth' := (isValid_iff.mp he).1
  have hnumber : ∀ {x : CivilDate}, x.monthNumber = 12 * x.year + x.month - 3 := rfl
  rcases lt_trichotomy d.monthNumber e.monthNumber with hlt | heq | hgt
  · have hdays := toDays_lt_of_month hd he hlt
    rw [hnumber, hnumber] at hlt
    omega
  · rw [toDays_eq hd, toDays_eq he, heq]
    rw [hnumber, hnumber] at heq
    omega
  · have hdays := toDays_lt_of_month he hd hgt
    rw [hnumber, hnumber] at hgt
    omega
end Runbook.CivilDate

namespace Runbook.Timestamp

/-- A clock shows the instant: its year is one of the calendar, and only the last second of a minute
is followed by a leap second. -/
structure IsShown (t : Timestamp) : Prop where
  year : isYear t.face.date.year = true
  nanosecond : t.nanosecond < Duration.second ∨
    t.secondOfDay % 60 = 59 ∧ t.nanosecond < 2 * Duration.second

theorem isShown_of_year {t : Timestamp} (hfirst : 0 ≤ t.face.date.year)
    (hlast : t.face.date.year ≤ 9999) (hnano : t.nanosecond < Duration.second) : t.IsShown := by
  refine ⟨?_, .inl hnano⟩
  simp only [isYear, Bool.and_eq_true, decide_eq_true_eq]
  exact ⟨le_trans (by decide) hfirst, hlast.trans (by decide)⟩

/-! ### Parts of the text -/

section

variable {digits rest : List Char}

theorem takeWhile_digits (hdigits : ∀ c ∈ digits, c.isDigit = true)
    (hrest : ∀ c ∈ rest.head?, c.isDigit = false) :
    (digits ++ rest).takeWhile Char.isDigit = digits := by
  rw [List.takeWhile_append_of_pos hdigits]
  cases rest with
  | nil => simp
  | cons c rest => simp [hrest c (by simp)]

theorem number?_digits (width : Nat) (hne : digits ≠ [])
    (hdigits : ∀ c ∈ digits, c.isDigit = true) (hlen : digits.length ≤ width)
    (hrest : ∀ c ∈ rest.head?, c.isDigit = false) :
    number? width (digits ++ rest) = some (Numeral.digitsValue 0 digits, rest) := by
  simp [number?, takeWhile_digits hdigits hrest, List.take_of_length_le hlen, hne]

end

theorem trimStart_padded (width n : Nat) (rest : List Char) :
    Text.trimStart ((padded width n).toList ++ rest) = (padded width n).toList ++ rest := by
  cases h : (padded width n).toList with
  | nil => exact absurd h (padded_ne_nil width n)
  | cons c s =>
    have hc : c.isDigit = true := isDigit_of_mem_padded (h ▸ List.mem_cons_self)
    rw [List.cons_append, Text.trimStart_eq_self (Text.isBlank_of_isDigit hc)]

theorem number?_padded (width n : Nat) {rest : List Char} (hw : 0 < width) (h : n < 10 ^ width)
    (hrest : ∀ c ∈ rest.head?, c.isDigit = false) :
    number? width ((padded width n).toList ++ rest) = some (n, rest) := by
  rw [number?_digits _ (padded_ne_nil width n) (fun c => isDigit_of_mem_padded)
    (length_padded hw h).le hrest, digitsValue_padded]

theorem twoDigits?_padded {n : Nat} {rest : List Char} (h : n < 100)
    (hrest : ∀ c ∈ rest.head?, c.isDigit = false) :
    twoDigits? ((padded 2 n).toList ++ rest) = some (n, rest) := by
  rw [twoDigits?, trimStart_padded]
  exact number?_padded _ _ (by decide) h hrest

theorem mark?_cons {c : Char} (h : Text.isBlank c = false) (rest : List Char) :
    mark? c (c :: rest) = some rest := by
  simp [mark?, Text.trimStart_eq_self h]

theorem year?_of_isDigit {c : Char} (h : c.isDigit = true) (s : List Char) :
    year? (c :: s) = (number? 4 (c :: s)).map fun (n, rest) => ((n : Int), rest) := by
  rw [year?, Text.trimStart_eq_self (Text.isBlank_of_isDigit h)]
  split
  next heq =>
    obtain ⟨rfl, -⟩ := List.cons.inj heq
    exact absurd h (by decide)
  next heq =>
    obtain ⟨rfl, -⟩ := List.cons.inj heq
    exact absurd h (by decide)
  next => rfl

theorem year?_minus (s : List Char) :
    year? ('-' :: s) = (number? s.length s).map fun (n, rest) => (-(n : Int), rest) := by
  rw [year?, Text.trimStart_eq_self (by decide)]
  rfl

theorem year?_plus (s : List Char) :
    year? ('+' :: s) = (number? s.length s).map fun (n, rest) => ((n : Int), rest) := by
  rw [year?, Text.trimStart_eq_self (by decide)]
  rfl

theorem separator?_letter (rest : List Char) : separator? ('T' :: rest) = some rest := rfl

theorem offset?_letter (rest : List Char) : offset? ('Z' :: rest) = some (0, rest) := by
  rw [offset?, Text.trimStart_eq_self (by decide)]
  rfl

theorem year?_yearText (year : Int) {rest : List Char}
    (hrest : ∀ c ∈ rest.head?, c.isDigit = false) :
    year? ((yearText year).toList ++ rest) = some (year, rest) := by
  by_cases h : 0 ≤ year ∧ year ≤ 9999
  · rw [yearText, if_pos h]
    have hnumber := number?_padded 4 year.toNat (by decide) (by omega) hrest
    cases hs : (padded 4 year.toNat).toList with
    | nil => exact absurd hs (padded_ne_nil 4 year.toNat)
    | cons c s =>
      have hc : c.isDigit = true := isDigit_of_mem_padded (hs ▸ List.mem_cons_self)
      rw [hs, List.cons_append] at hnumber
      rw [List.cons_append, year?_of_isDigit hc, hnumber]
      simp [h.1]
  · have hnumber := number?_digits ((padded 4 year.natAbs).toList ++ rest).length
      (padded_ne_nil 4 year.natAbs) (fun c => isDigit_of_mem_padded) (by simp) hrest
    rw [digitsValue_padded] at hnumber
    rw [yearText, if_neg h, String.toList_append, List.append_assoc]
    by_cases hneg : year < 0
    · rw [if_pos hneg, show "-".toList = ['-'] from rfl, List.singleton_append, year?_minus,
        hnumber]
      simp [abs_of_neg hneg]
    · rw [if_neg hneg, show "+".toList = ['+'] from rfl, List.singleton_append, year?_plus,
        hnumber]
      simp [abs_of_nonneg (not_lt.mp hneg)]

theorem fraction?_padded (width n : Nat) {rest : List Char} (hw : 0 < width) (hwidth : width ≤ 9)
    (h : n < 10 ^ width) (hrest : ∀ c ∈ rest.head?, c.isDigit = false) :
    fraction? ('.' :: ((padded width n).toList ++ rest)) = some (10 ^ (9 - width) * n, rest) := by
  have hlen := length_padded hw h
  have hnine : ((padded width n).toList ++ List.replicate 9 '0').take 9 =
      (padded width n).toList ++ List.replicate (9 - width) '0' := by
    rw [List.take_append, List.take_of_length_le (by omega), hlen, List.take_replicate,
      Nat.min_eq_left (by omega)]
  simp only [fraction?, takeWhile_digits (fun c => isDigit_of_mem_padded) hrest, hnine,
    List.isEmpty_iff, padded_ne_nil, ↓reduceIte, Numeral.digitsValue_append, digitsValue_padded,
    Numeral.digitsValue_zeros, List.drop_left]

theorem fraction?_fractionText (nanosecond : Nat) {c : Char} (hc : c.isDigit = false)
    (hdot : c ≠ '.') (rest : List Char) :
    fraction? ((fractionText nanosecond).toList ++ c :: rest) =
      some (nanosecond % Duration.second, c :: rest) := by
  have hrest : ∀ d ∈ (c :: rest).head?, d.isDigit = false := by simp [hc]
  have hlt : nanosecond % Duration.second < 1000000000 := Nat.mod_lt _ (by decide)
  simp only [fractionText]
  generalize nanosecond % Duration.second = n at hlt
  by_cases hzero : n = 0
  · simp [hzero, fraction?, hdot]
  · by_cases hthree : n % 1000000 = 0
    · have h := fraction?_padded 3 (n / 1000000) (by decide) (by decide) (by omega)
        hrest
      simp only [hzero, hthree, beq_iff_eq, ↓reduceIte, String.toList_append]
      refine h.trans ?_
      rw [show 10 ^ (9 - 3) * (n / 1000000) = n by omega]
    · by_cases hsix : n % 1000 = 0
      · have h := fraction?_padded 6 (n / 1000) (by decide) (by decide) (by omega)
          hrest
        simp only [hzero, hthree, hsix, beq_iff_eq, ↓reduceIte, String.toList_append]
        refine h.trans ?_
        rw [show 10 ^ (9 - 6) * (n / 1000) = n by omega]
      · have h := fraction?_padded 9 n (by decide) (by decide) hlt hrest
        simp only [hzero, hthree, hsix, beq_iff_eq, ↓reduceIte, String.toList_append]
        refine h.trans ?_
        rw [show 10 ^ (9 - 9) * n = n by omega]

theorem head?_fractionText (nanosecond : Nat) :
    ∀ c ∈ ((fractionText nanosecond).toList ++ ['Z']).head?, c.isDigit = false := by
  unfold fractionText
  dsimp only
  split
  · simp
  · split
    · simp
    · split <;> simp

/-! ### The whole text -/

variable {t : Timestamp}

theorem secondOfDay_lt (t : Timestamp) : t.secondOfDay < 86400 := by
  simp only [secondOfDay, secondsPerDay]
  omega

theorem ofDay_days (t : Timestamp) : ofDay t.days t.secondOfDay t.nanosecond = t := by
  simp only [ofDay, days, secondOfDay, secondsPerDay]
  congr
  omega

/-- The parts that a clock shows make up the instant again. -/
theorem instant?_face (h : t.IsShown) :
    instant? t.face.date t.face.hour t.face.minute t.face.second (t.nanosecond % Duration.second) 0
      [] = some t := by
  have hday := secondOfDay_lt t
  have hrange := h.nanosecond
  have hvalid : t.face.date.isValid = true := CivilDate.isValid_ofDays t.days
  have hyear := h.year
  have hdate : t.face.date.toDays = t.days := CivilDate.toDays_ofDays t.days
  have hhour : t.face.hour < 24 := by simp only [face]; omega
  have hminute : t.face.minute < 60 := by simp only [face]; omega
  have hsecond : t.face.second ≤ 60 := by simp only [face, Duration.second] at hrange ⊢; omega
  have hleap : t.face.second = 60 ↔ Duration.second ≤ t.nanosecond := by
    simp only [face, Duration.second] at hrange ⊢
    omega
  have hnano : t.nanosecond % Duration.second +
      (if t.face.second = 60 then Duration.second else 0) = t.nanosecond := by
    simp only [hleap, Duration.second] at hrange ⊢
    split <;> omega
  have hof : (t.face.hour : Int) * 3600 + t.face.minute * 60 + min t.face.second 59 - 0 =
      t.secondOfDay := by
    simp only [face, Duration.second] at hrange ⊢
    omega
  simp only [instant?, hvalid, hyear, hhour, hminute, hsecond, decide_true, Bool.and_self,
    Text.isBlankText, List.all_nil, ↓reduceIte, hdate, hnano, hof, ofDay_days]

theorem bind_of_eq_some {α β : Type} {x : Option α} {a : α} {f : α → Option β} {b : β}
    (hx : x = some a) (hf : f a = some b) : (x >>= f) = some b :=
  Option.bind_eq_some_iff.mpr ⟨a, hx, hf⟩

/-- An instant that a clock shows is what its text is read as. -/
theorem read?_text (h : t.IsShown) : read? t.text = some t := by
  have hday := secondOfDay_lt t
  have hrange := h.nanosecond
  obtain ⟨hmonth, hmonthDay⟩ : t.face.date.month < 100 ∧ t.face.date.day < 100 :=
    CivilDate.lt_of_isValid (CivilDate.isValid_ofDays t.days)
  have hhour : t.face.hour < 100 := by simp only [face]; omega
  have hminute : t.face.minute < 100 := by simp only [face]; omega
  have hsecond : t.face.second < 100 := by simp only [face, Duration.second] at hrange ⊢; omega
  have htext : t.text.toList = (yearText t.face.date.year).toList ++ ('-' ::
      ((padded 2 t.face.date.month).toList ++ ('-' :: ((padded 2 t.face.date.day).toList ++
      ('T' :: ((padded 2 t.face.hour).toList ++ (':' :: ((padded 2 t.face.minute).toList ++
      (':' :: ((padded 2 t.face.second).toList ++
      ((fractionText t.nanosecond).toList ++ ['Z']))))))))))) := by
    simp [text, baseText, dateText, clockText]
  have hfraction := fraction?_fractionText t.nanosecond (c := 'Z') (by decide) (by decide) []
  rw [read?, htext, readChars?]
  refine bind_of_eq_some (year?_yearText _ (by simp)) ?_
  refine bind_of_eq_some (mark?_cons (by decide) _)
    (bind_of_eq_some (twoDigits?_padded hmonth (by simp)) ?_)
  refine bind_of_eq_some (mark?_cons (by decide) _)
    (bind_of_eq_some (twoDigits?_padded hmonthDay (by simp)) ?_)
  refine bind_of_eq_some (separator?_letter _)
    (bind_of_eq_some (twoDigits?_padded hhour (by simp)) ?_)
  refine bind_of_eq_some (mark?_cons (by decide) _)
    (bind_of_eq_some (twoDigits?_padded hminute (by simp)) ?_)
  refine bind_of_eq_some (mark?_cons (by decide) _)
    (bind_of_eq_some (twoDigits?_padded hsecond (head?_fractionText t.nanosecond)) ?_)
  refine bind_of_eq_some hfraction (bind_of_eq_some (offset?_letter _) ?_)
  exact instant?_face h

/-! ### Instants that are read -/

theorem lt_of_fraction? {s rest : List Char} {n : Nat} (h : fraction? s = some (n, rest)) :
    n < Duration.second := by
  unfold fraction? at h
  split at h
  next tail =>
    have hdigits : ∀ c ∈ (tail.takeWhile Char.isDigit ++ List.replicate 9 '0').take 9,
        c.isDigit = true := by
      intro c hc
      rcases List.mem_append.mp (List.mem_of_mem_take hc) with hc | hc
      · exact List.all_eq_true.mp List.all_takeWhile c hc
      · rw [(List.mem_replicate.mp hc).2]
        decide
    have hlt := Numeral.digitsValue_lt hdigits 0
    dsimp only at h
    split at h
    · cases h
    · simp only [Option.some.injEq, Prod.mk.injEq] at h
      rw [← h.1]
      refine hlt.trans_le ?_
      simp [Duration.second]
  next =>
    simp only [Option.some.injEq, Prod.mk.injEq] at h
    rw [← h.1]
    decide

theorem dvd_of_signedOffset? {sign offset : Int} {s rest : List Char}
    (h : signedOffset? sign s = some (offset, rest)) : 60 ∣ offset := by
  simp only [signedOffset?, Option.bind_eq_bind, Option.bind_eq_some_iff, Prod.exists] at h
  obtain ⟨hours, s, -, minutes, s, -, h⟩ := h
  split at h
  · simp only [Option.pure_def, Option.some.injEq, Prod.mk.injEq] at h
    exact ⟨sign * (hours * 60 + minutes), by rw [← h.1]; ring⟩
  · cases h

/-- Distances from universal time are whole minutes. -/
theorem dvd_of_offset? {offset : Int} {s rest : List Char} (h : offset? s = some (offset, rest)) :
    60 ∣ offset := by
  unfold offset? at h
  split at h
  · exact (Prod.mk.inj (Option.some.inj h)).1 ▸ Int.dvd_zero 60
  · exact (Prod.mk.inj (Option.some.inj h)).1 ▸ Int.dvd_zero 60
  · exact dvd_of_signedOffset? h
  · exact dvd_of_signedOffset? h
  · exact dvd_of_signedOffset? h
  · split at h
    · exact (Prod.mk.inj (Option.some.inj h)).1 ▸ Int.dvd_zero 60
    · cases h

theorem isShown_of_instant? {date : CivilDate} {hour minute second nanosecond : Nat} {offset : Int}
    {rest : List Char} (hn : nanosecond < Duration.second) (hoffset : 60 ∣ offset)
    (h : instant? date hour minute second nanosecond offset rest = some t) : t.IsShown := by
  unfold instant? at h
  split at h
  · dsimp only at h
    obtain ⟨leap, hleap⟩ : ∃ leap, leap = if second = 60 then Duration.second else 0 := ⟨_, rfl⟩
    rw [← hleap] at h
    split at h
    next hyear =>
      rw [← Option.some.inj h]
      refine ⟨hyear, ?_⟩
      obtain ⟨k, rfl⟩ := hoffset
      simp only [ofDay, secondOfDay, secondsPerDay]
      split at hleap
      · right
        omega
      · left
        omega
    next => cases h
  · cases h

/-- An instant that is read from a text is one that a clock shows. -/
theorem isShown_of_read? {s : String} (h : read? s = some t) : t.IsShown := by
  unfold read? readChars? at h
  obtain ⟨⟨_, _⟩, -, h⟩ := Option.bind_eq_some_iff.mp h
  -- a mark and a number, five times over
  iterate 5
    obtain ⟨_, -, h⟩ := Option.bind_eq_some_iff.mp h
    obtain ⟨⟨_, _⟩, -, h⟩ := Option.bind_eq_some_iff.mp h
  obtain ⟨⟨nanosecond, _⟩, hfraction, h⟩ := Option.bind_eq_some_iff.mp h
  obtain ⟨⟨offset, _⟩, hoffset, h⟩ := Option.bind_eq_some_iff.mp h
  exact isShown_of_instant? (lt_of_fraction? hfraction) (dvd_of_offset? hoffset) h

end Runbook.Timestamp
