import Runbook.Proofs.CronFields
import Runbook.Proofs.Adding

/-!
The additions made when weekdays counted from 0 to 7 are counted from 1. A number of the field is
any 32-bit word when one is added to it, so the greatest of them overflows. Main statements: an
expression is read, or refused, exactly if none of its additions overflows; and a definition of a
schedule file whose expression is refused is reported in its place, the others being added as if it
were not there, while one whose expression overflows stops the adding.
-/

namespace Runbook.Cron

/-! ### Items that overflow -/

/-- The greatest 32-bit word, the only one without a next one. -/
def lastWord : UInt32 := 4294967295

/-- How an item of a field of weekdays is read: as a weekday, as a range between two of them, or as
something else that stays as it is; each with the step as it is written. -/
inductive ItemForm where
  | day (day : UInt32) (step : Option String)
  | range (range : String) (start stop : UInt32) (step : Option String)
  | other (range : String) (step : Option String)

def formOf (item : String) : ItemForm :=
  let (range, step) := match cutText '/' item with
    | some (range, step) => (range, some step)
    | none => (item, none)
  match cutText '-' range with
  | some (first, last) =>
    match word? first, word? last with
    | some start, some stop => .range range start stop step
    | _, _ => .other range step
  | none =>
    match word? range with
    | some day => .day day step
    | none => .other range step

/-- A range with the greatest word at either end, except as the start of one in steps up to 7, which
has no member. -/
def RangeOverflows (start stop : UInt32) (step : Option String) : Prop :=
  stop = lastWord ∨ (start = lastWord ∧ (stop ≠ 7 ∨ step = none))

/-- A weekday that is the greatest word, or a range of weekdays that overflows. -/
def ItemOverflows (item : String) : Prop :=
  match formOf item with
  | .day day _ => day = lastWord
  | .range _ start stop step => RangeOverflows start stop step
  | .other _ _ => False

/-- An expression of five fields with an item in the last one that overflows. -/
def Overflows (text : String) : Prop :=
  ∃ minute hour day month weekday, fieldsOf text = [minute, hour, day, month, weekday] ∧
    ∃ item ∈ splitText ',' weekday, ItemOverflows item

/-! ### Where an addition overflows -/

theorem weekdayItem_eq (item : String) : weekdayItem item =
    match formOf item with
    | .day day step => return withStep (← shiftedText day) step
    | .range range start stop step => weekdayRange range start stop step
    | .other range step => return withStep range step := by
  unfold weekdayItem formOf
  cases cutText '/' item with
  | none =>
    dsimp only
    cases cutText '-' item with
    | none => cases word? item <;> rfl
    | some ends =>
      obtain ⟨first, last⟩ := ends
      dsimp only
      cases word? first <;> cases word? last <;> rfl
  | some parts =>
    obtain ⟨range, step⟩ := parts
    dsimp only
    cases cutText '-' range with
    | none => cases word? range <;> rfl
    | some ends =>
      obtain ⟨first, last⟩ := ends
      dsimp only
      cases word? first <;> cases word? last <;> rfl

theorem next_eq_overflow_iff {n : UInt32} : Word.next n = .error .overflow ↔ n = lastWord := by
  have hlt : n.toNat < 4294967296 := n.toNat_lt
  have hgreatest : Word.greatest 32 = 4294967295 := rfl
  have hlast : lastWord.toNat = 4294967295 := rfl
  rw [Word.next, ← UInt32.toNat_inj, hlast, hgreatest]
  split
  case isTrue h => exact iff_of_false nofun (by omega)
  case isFalse h => exact iff_of_true rfl (by omega)

theorem shiftedText_eq_overflow_iff {day : UInt32} :
    shiftedText day = .error .overflow ↔ day = lastWord := by
  rw [shiftedText, Computed.map_eq_overflow_iff, shiftWeekday]
  split
  case isTrue h =>
    subst h
    exact iff_of_false nofun (by decide)
  case isFalse h => exact next_eq_overflow_iff

/-- None of the weekdays up to 7 is the greatest word. -/
theorem untilSunday_ne_overflow (start : UInt32) (step : Nat) :
    untilSunday start step ≠ .error .overflow := by
  rw [untilSunday, Ne, Computed.map_eq_overflow_iff, Computed.mapM_eq_overflow_iff]
  rintro ⟨n, hn, hover⟩
  have hle : n ≤ 7 := (mem_stepped.mp hn).1.2
  have hlt : n < UInt32.size := Nat.lt_of_le_of_lt hle (by decide)
  have hnat : (UInt32.ofNat n).toNat = n := UInt32.toNat_ofNat_of_lt' hlt
  rw [shiftedText_eq_overflow_iff.mp hover] at hnat
  have hlast : lastWord.toNat = 4294967295 := rfl
  omega

theorem bind_pure_eq_overflow_iff {α β : Type} {c : Computed α} {f : α → β} :
    (c >>= fun a => pure (f a)) = .error .overflow ↔ c = .error .overflow := by
  rw [← map_eq_pure_bind, Computed.map_eq_overflow_iff]

theorem weekdayRange_eq_overflow_iff {range : String} {start stop : UInt32}
    {step : Option String} : weekdayRange range start stop step = .error .overflow ↔
      RangeOverflows start stop step := by
  have hseven : (7 : UInt32) ≠ lastWord := by decide
  have hzero : (0 : UInt32) ≠ lastWord := by decide
  unfold weekdayRange
  split
  case isTrue hweek =>
    obtain ⟨rfl, rfl⟩ := hweek
    exact iff_of_false nofun (by simp [RangeOverflows, hzero, hseven])
  split
  case isTrue hstop =>
    subst hstop
    cases step with
    | none =>
      rw [bind_pure_eq_overflow_iff, next_eq_overflow_iff]
      simp [RangeOverflows, hseven]
    | some text =>
      have hno : ¬RangeOverflows start 7 (some text) := by simp [RangeOverflows, hseven]
      dsimp only
      cases step? text with
      | none => exact iff_of_false nofun hno
      | some n => exact iff_of_false (untilSunday_ne_overflow start n) hno
  case isFalse hstop =>
    -- The first end is computed before the second, which overflows only if the first does not.
    rw [Computed.bind_eq_overflow_iff]
    simp only [bind_pure_eq_overflow_iff, shiftedText_eq_overflow_iff, RangeOverflows, hstop, ne_eq,
      not_false_eq_true, true_or, and_true]
    rcases hstart : shiftedText start with ⟨⟨⟩⟩ | text
    · simp [shiftedText_eq_overflow_iff.mp hstart]
    · simp [or_comm]

theorem weekdayItem_eq_overflow_iff {item : String} :
    weekdayItem item = .error .overflow ↔ ItemOverflows item := by
  rw [weekdayItem_eq, ItemOverflows]
  cases formOf item with
  | day day step => exact bind_pure_eq_overflow_iff.trans shiftedText_eq_overflow_iff
  | range range start stop step => exact weekdayRange_eq_overflow_iff
  | other range step => exact iff_of_false nofun id

theorem normalWeekdays_eq_overflow_iff {field : String} : normalWeekdays field = .error .overflow ↔
    ∃ item ∈ splitText ',' field, ItemOverflows item := by
  rw [normalWeekdays, Computed.map_eq_overflow_iff, Computed.mapM_eq_overflow_iff]
  simp only [weekdayItem_eq_overflow_iff]

theorem normalFields_eq_overflow_iff {text : String} :
    normalFields text = .error .overflow ↔ Overflows text := by
  unfold normalFields
  split
  case h_1 minute hour day month weekday hfields =>
    rw [bind_pure_eq_overflow_iff, normalWeekdays_eq_overflow_iff]
    simp [Overflows, hfields]
  case h_2 hfields =>
    refine iff_of_false (by split <;> nofun) ?_
    rintro ⟨minute, hour, day, month, weekday, hfive, -⟩
    exact hfields minute hour day month weekday hfive

theorem parse_eq_overflow_iff {text : String} :
    Cron.parse text = .error .overflow ↔ Overflows text := by
  rw [Cron.parse, bind_pure_eq_overflow_iff, read, bind_pure_eq_overflow_iff,
    normalFields_eq_overflow_iff]

/-! ### Definitions whose expression cannot be read -/

/-- What the reading of an expression comes to, for every text. It gives an expression or the error
that names the text, unless an addition to a weekday overflows. A definition of a schedule file whose
expression is refused is reported in its place, and the definitions before and after it are added, or
rejected, as they are in the file without it. One whose expression overflows stops the adding once
those before it have been dealt with. -/
theorem additions_overflow_exactly (text : String) :
    ((∃ c, Cron.parse text = .ok (.ok c)) ∨
      (∃ fault, Cron.parse text = .ok (.error (.invalidCron text fault))) ∨
      Cron.parse text = .error .overflow) ∧
    (Cron.parse text = .error .overflow ↔ Overflows text) ∧
    ∀ (store : ScheduleStore) (file : FilePath) (d : ScheduleDefinition)
      (front back : List ScheduleDefinition), d.cron = text →
      store.addDefinitions file (front ++ back) = (do
        let before ← store.addDefinitions file front
        let after ← store.addDefinitions file back
        return before.join after) ∧
      (∀ e, Cron.parse text = .ok (.error e) →
        store.addDefinitions file (front ++ d :: back) = (do
          let before ← store.addDefinitions file front
          let after ← store.addDefinitions file back
          return before.join { after with rejected := (d.name, e.message) :: after.rejected })) ∧
      (Overflows text → store.addDefinitions file (front ++ d :: back) = (do
        let _ ← store.addDefinitions file front
        ExceptT.mk (.halted .overflow))) := by
  refine ⟨?_, parse_eq_overflow_iff, ?_⟩
  · unfold Cron.parse
    rcases read text with ⟨⟨⟩⟩ | fault | c
    · exact .inr (.inr rfl)
    · exact .inr (.inl ⟨fault, rfl⟩)
    · exact .inl ⟨c, rfl⟩
  · rintro store file d front back rfl
    refine ⟨store.addDefinitions_append file front back, fun e hparse => ?_, fun hover => ?_⟩
    · have htimes : d.checkTimes = .ok (.error e) := by
        unfold ScheduleDefinition.checkTimes
        rw [hparse]
        rfl
      exact store.addDefinitions_refused file htimes front back
    · have htimes : d.checkTimes = .error .overflow := by
        unfold ScheduleDefinition.checkTimes
        rw [parse_eq_overflow_iff.mpr hover]
        rfl
      exact store.addDefinitions_halted file htimes front back

/-- An expression that is refused, and one that overflows, each between two others. -/
theorem additions_overflow_exactly_between :
    (⟨"schedules.json"⟩ : ScheduleStore).addDefinitions "s.json"
      ([⟨"one", "0 9 * * 1", "flow.yaml", none, none, none, none⟩] ++
        ⟨"two", "0 9 * * 7-7", "flow.yaml", none, none, none, none⟩ ::
        [⟨"three", "0 9 * * 2", "flow.yaml", none, none, none, none⟩]) = (do
      let before ← (⟨"schedules.json"⟩ : ScheduleStore).addDefinitions "s.json"
        [⟨"one", "0 9 * * 1", "flow.yaml", none, none, none, none⟩]
      let after ← (⟨"schedules.json"⟩ : ScheduleStore).addDefinitions "s.json"
        [⟨"three", "0 9 * * 2", "flow.yaml", none, none, none, none⟩]
      return before.join { after with rejected := ("two",
        (ScheduleError.invalidCron "0 9 * * 7-7" .invalid).message) :: after.rejected }) ∧
    (⟨"schedules.json"⟩ : ScheduleStore).addDefinitions "s.json"
      ([⟨"one", "0 9 * * 1", "flow.yaml", none, none, none, none⟩] ++
        ⟨"two", "0 9 * * 4294967295", "flow.yaml", none, none, none, none⟩ ::
        [⟨"three", "0 9 * * 2", "flow.yaml", none, none, none, none⟩]) = (do
      let _ ← (⟨"schedules.json"⟩ : ScheduleStore).addDefinitions "s.json"
        [⟨"one", "0 9 * * 1", "flow.yaml", none, none, none, none⟩]
      ExceptT.mk (.halted .overflow)) := by
  have hrefused : Cron.parse "0 9 * * 7-7" =
      .ok (.error (.invalidCron "0 9 * * 7-7" .invalid)) := by decide +kernel
  have hover : Overflows "0 9 * * 4294967295" := by
    rw [← (additions_overflow_exactly "0 9 * * 4294967295").2.1]
    decide +kernel
  exact ⟨((additions_overflow_exactly "0 9 * * 7-7").2.2 _ _ _ _ _ rfl).2.1 _ hrefused,
    ((additions_overflow_exactly "0 9 * * 4294967295").2.2 _ _ _ _ _ rfl).2.2 hover⟩

/-- The greatest word is no weekday, but it overflows where the word below it, and the number above
it, are refused. -/
theorem last_word_overflows :
    Cron.parse "0 9 * * 4294967295" = .error .overflow ∧
    Cron.parse "0 9 * * 4294967295-7" = .error .overflow ∧
    Cron.parse "0 9 * * 1-4294967295/2" = .error .overflow ∧
    Cron.parse "0 9 * * 4294967294" =
      .ok (.error (.invalidCron "0 9 * * 4294967294" .invalid)) ∧
    Cron.parse "0 9 * * 4294967296" =
      .ok (.error (.invalidCron "0 9 * * 4294967296" .invalid)) := by
  decide +kernel

end Runbook.Cron
