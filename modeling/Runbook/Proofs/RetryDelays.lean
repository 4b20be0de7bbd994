import Mathlib.Algebra.Ring.Nat
import Mathlib.Order.MinMax
import Runbook.Console.Settings
import Runbook.Proofs.RecordText

/-!
The waits between retries. Main statement: they double up to the limit as long as the power of two
is a 32-bit word, or if a word of them is past the limit; in any case they never shrink, never pass
the limit and stay there. The other bound, the longest duration, never shows: no limit is past it.
-/

namespace Runbook.Backoff

variable {b : Backoff} {retry : Nat}

/-- The wait before a retry if numbers had no bounds. -/
def doubled (b : Backoff) (retry : Nat) : Duration :=
  ⟨min (b.base.nanoseconds * 2 ^ (retry - 1)) b.limit.nanoseconds⟩

/-- The limit is a duration that there is. -/
def IsBounded (b : Backoff) : Prop := b.limit.nanoseconds ≤ Duration.longest.nanoseconds

instance (b : Backoff) : Decidable b.IsBounded := inferInstanceAs (Decidable (_ ≤ _))

theorem isBounded_standard : standard.IsBounded := by decide

/-! ### The factor -/

theorem two_pow_le_greatestFactor (h : retry ≤ 32) : 2 ^ (retry - 1) ≤ greatestFactor :=
  calc 2 ^ (retry - 1) ≤ 2 ^ 31 := Nat.pow_le_pow_right (by omega) (by omega)
    _ ≤ greatestFactor := by decide

theorem greatestFactor_lt_two_pow (h : 32 < retry) : greatestFactor < 2 ^ (retry - 1) :=
  calc greatestFactor < 2 ^ 32 := by decide
    _ ≤ 2 ^ (retry - 1) := Nat.pow_le_pow_right (by omega) (by omega)

/-- The factor is the power of two, cut at the greatest word. -/
theorem factor_eq_min (retry : Nat) : factor retry = min (2 ^ (retry - 1)) greatestFactor := by
  unfold factor
  split
  next h => exact (Nat.min_eq_left (two_pow_le_greatestFactor h)).symm
  next h => exact (Nat.min_eq_right (greatestFactor_lt_two_pow (Nat.not_le.mp h)).le).symm

theorem factor_mono : Monotone factor := by
  intro m n h
  have hpow : 2 ^ (m - 1) ≤ 2 ^ (n - 1) := Nat.pow_le_pow_right (by omega) (by omega)
  rw [factor_eq_min, factor_eq_min]
  exact min_le_min_right greatestFactor hpow

/-! ### The delay -/

theorem delay_le_limit (b : Backoff) (retry : Nat) :
    (b.delay retry).nanoseconds ≤ b.limit.nanoseconds :=
  Nat.min_le_right _ _

theorem delay_mono (b : Backoff) : Monotone fun retry => (b.delay retry).nanoseconds := fun _ _ h =>
  min_le_min_right _ (min_le_min_right _ (Nat.mul_le_mul_left _ (factor_mono h)))

theorem delay_eq_limit_of_le {m n : Nat} (hle : m ≤ n) (h : b.delay m = b.limit) :
    b.delay n = b.limit := by
  have hlimit : b.limit.nanoseconds ≤ (b.delay n).nanoseconds :=
    calc b.limit.nanoseconds = (b.delay m).nanoseconds := by rw [h]
      _ ≤ (b.delay n).nanoseconds := b.delay_mono hle
  exact congrArg Duration.mk (Nat.le_antisymm (b.delay_le_limit n) hlimit)

theorem delay_eq_atMost (hb : b.IsBounded) (retry : Nat) :
    b.delay retry = Duration.atMost ⟨b.base.nanoseconds * factor retry⟩ b.limit := by
  have hlongest : min Duration.longest.nanoseconds b.limit.nanoseconds = b.limit.nanoseconds :=
    Nat.min_eq_right hb
  simp only [delay, Duration.times, Duration.atMost, Nat.min_assoc, hlongest]

theorem delay_eq_doubled_of_factor (hb : b.IsBounded) (h : factor retry = 2 ^ (retry - 1)) :
    b.delay retry = b.doubled retry := by
  rw [delay_eq_atMost hb, h]
  rfl

/-- Past the 32nd retry the delay is that of the greatest factor. -/
theorem delay_of_lt (hb : b.IsBounded) (h : 32 < retry) :
    b.delay retry = Duration.atMost ⟨b.base.nanoseconds * greatestFactor⟩ b.limit := by
  rw [delay_eq_atMost hb, factor, if_neg (Nat.not_le.mpr h)]

/-- The cut at the greatest word shows if a word of bases is short of the limit. -/
theorem delay_lt_doubled (hb : b.IsBounded) (h : 32 < retry) (hbase : 0 < b.base.nanoseconds)
    (hlimit : b.base.nanoseconds * greatestFactor < b.limit.nanoseconds) :
    (b.delay retry).nanoseconds < (b.doubled retry).nanoseconds := by
  have hpow : b.base.nanoseconds * greatestFactor < b.base.nanoseconds * 2 ^ (retry - 1) :=
    Nat.mul_lt_mul_of_pos_left (greatestFactor_lt_two_pow h) hbase
  calc (b.delay retry).nanoseconds ≤ b.base.nanoseconds * greatestFactor := by
        rw [delay_of_lt hb h]
        exact Nat.min_le_left _ _
    _ < (b.doubled retry).nanoseconds := Nat.lt_min.mpr ⟨hpow, hlimit⟩

theorem delay_eq_doubled_of_limit_le (hb : b.IsBounded) (h : 32 < retry)
    (hlimit : b.limit.nanoseconds ≤ b.base.nanoseconds * greatestFactor) :
    b.delay retry = b.doubled retry := by
  have hpow : b.base.nanoseconds * greatestFactor ≤ b.base.nanoseconds * 2 ^ (retry - 1) :=
    Nat.mul_le_mul_left _ (greatestFactor_lt_two_pow h).le
  rw [delay_of_lt hb h, doubled, Duration.atMost, Nat.min_eq_right hlimit,
    Nat.min_eq_right (hlimit.trans hpow)]

theorem delay_eq_doubled_iff (hb : b.IsBounded) : b.delay retry = b.doubled retry ↔
    retry ≤ 32 ∨ b.base.nanoseconds = 0 ∨
      b.limit.nanoseconds ≤ b.base.nanoseconds * greatestFactor := by
  constructor
  · intro heq
    by_contra hcut
    obtain ⟨hretry, hbase, hlimit⟩ := not_or.mp hcut |>.imp_right not_or.mp
    have hlt := delay_lt_doubled hb (Nat.not_le.mp hretry) (Nat.pos_of_ne_zero hbase)
      (Nat.not_le.mp hlimit)
    rw [heq] at hlt
    exact hlt.false
  · rintro (hretry | hbase | hlimit)
    · exact delay_eq_doubled_of_factor hb (if_pos hretry)
    · rw [delay_eq_atMost hb, doubled, Duration.atMost, hbase, Nat.zero_mul, Nat.zero_mul]
    · rcases Nat.lt_or_ge 32 retry with hretry | hretry
      · exact delay_eq_doubled_of_limit_le hb hretry hlimit
      · exact delay_eq_doubled_of_factor hb (if_pos hretry)

end Runbook.Backoff

/-! ### Backoffs that are set -/

namespace Runbook.Settings

variable {s s' : Settings} {d : Document}

theorem backoff_of_withStorage? (h : withStorage? s d = some s') : s'.backoff = s.backoff := by
  obtain ⟨fields, -, h⟩ := Option.bind_eq_some_iff.mp h
  split at h
  next history schedules daemon =>
    simp only [Option.bind_eq_bind, Option.bind_eq_some_iff] at h
    obtain ⟨_, -, _, -, _, -, h⟩ := h
    obtain rfl := Option.some.inj h
    rfl
  next => cases h

theorem backoff_of_withLogging? (h : withLogging? s d = some s') : s'.backoff = s.backoff := by
  obtain ⟨fields, -, h⟩ := Option.bind_eq_some_iff.mp h
  split at h
  next filter json =>
    simp only [Option.bind_eq_bind, Option.bind_eq_some_iff] at h
    obtain ⟨_, -, _, -, h⟩ := h
    obtain rfl := Option.some.inj h
    rfl
  next => cases h

theorem milliseconds?_le_longest {t : Duration} (h : milliseconds? d = some t) :
    t.nanoseconds ≤ Duration.longest.nanoseconds := by
  obtain ⟨n, hn, rfl⟩ := Option.map_eq_some_iff.mp h
  have hcount : Word.count 64 * Duration.millisecond ≤ Duration.longest.nanoseconds := by decide
  exact (Nat.mul_le_mul_right _ (Record.lt_of_natural? hn).le).trans hcount

theorem isBounded_of_withExecution? (hs : s.backoff.IsBounded)
    (h : withExecution? s d = some s') : s'.backoff.IsBounded := by
  obtain ⟨fields, -, h⟩ := Option.bind_eq_some_iff.mp h
  split at h
  next base limit =>
    simp only [Option.bind_eq_bind, Option.bind_eq_some_iff] at h
    obtain ⟨_, -, t, ht, h⟩ := h
    obtain rfl := Option.some.inj h
    cases limit with
    | none =>
      obtain rfl := Option.some.inj ht
      exact hs
    | some d => exact milliseconds?_le_longest ht
  next => cases h

theorem isBounded_of_withPart? {read? : Settings → Document → Option Settings}
    {part : Option Document} (hs : s.backoff.IsBounded)
    (hread : ∀ d, read? s d = some s' → s'.backoff.IsBounded)
    (h : s.withPart? read? part = some s') : s'.backoff.IsBounded := by
  cases part with
  | none =>
    obtain rfl := Option.some.inj h
    exact hs
  | some d => exact hread d h

/-- The limit that a file sets is a duration that there is, and so is the one it leaves out. -/
theorem isBounded_of_read? {home : FilePath} {text : String} (h : read? home text = some s) :
    s.backoff.IsBounded := by
  obtain ⟨d, -, h⟩ := Option.bind_eq_some_iff.mp h
  obtain ⟨parts, -, h⟩ := Option.bind_eq_some_iff.mp h
  split at h
  next storage logging execution =>
    obtain ⟨stored, hstored, h⟩ := Option.bind_eq_some_iff.mp h
    obtain ⟨logged, hlogged, h⟩ := Option.bind_eq_some_iff.mp h
    have hstandard : (standard home).backoff.IsBounded := Backoff.isBounded_standard
    have hstored : stored.backoff.IsBounded :=
      isBounded_of_withPart? hstandard (fun _ h => by rwa [backoff_of_withStorage? h]) hstored
    have hlogged : logged.backoff.IsBounded :=
      isBounded_of_withPart? hstored (fun _ h => by rwa [backoff_of_withLogging? h]) hlogged
    exact isBounded_of_withPart? hlogged (fun _ => isBounded_of_withExecution? hlogged) h
  next => cases h

end Runbook.Settings

namespace Runbook.Backoff

/-! ### The whole course of the delays -/

/-- The delays of a backoff: which of them are those of the doubling, what the others are, and how
they go on. The backoff of the settings is one of these, whatever its file says. -/
theorem doubled_while_word (b : Backoff) :
    (∀ home text s, Settings.read? home text = some s → s.backoff = b → b.IsBounded) ∧
    (b.IsBounded →
      (∀ retry, b.delay retry = b.doubled retry ↔
        retry ≤ 32 ∨ b.base.nanoseconds = 0 ∨
          b.limit.nanoseconds ≤ b.base.nanoseconds * greatestFactor) ∧
      (∀ retry, 32 < retry →
        b.delay retry = Duration.atMost ⟨b.base.nanoseconds * greatestFactor⟩ b.limit) ∧
      (∀ m n, m ≤ n → (b.delay m).nanoseconds ≤ (b.delay n).nanoseconds) ∧
      (∀ retry, (b.delay retry).nanoseconds ≤ b.limit.nanoseconds) ∧
      ∀ m n, m ≤ n → b.delay m = b.limit → b.delay n = b.limit) :=
  ⟨fun _ _ _ hread heq => heq ▸ Settings.isBounded_of_read? hread, fun hb => ⟨fun _ => delay_eq_doubled_iff hb,
    fun _ => delay_of_lt hb, fun _ _ h => b.delay_mono h, b.delay_le_limit,
    fun _ _ => delay_eq_limit_of_le⟩⟩

/-- The standard waits double up to the limit and stay there. -/
theorem doubled_while_word_standard :
    standard.IsBounded ∧
    [1, 2, 3, 4, 5].map standard.delay =
      [1000, 2000, 4000, 8000, 10000].map Duration.ofMilliseconds ∧
    ∀ retry, 5 ≤ retry → standard.delay retry = standard.limit := by
  obtain ⟨hdoubled, -, -, -, hstay⟩ := (doubled_while_word standard).2 (by decide)
  refine ⟨by decide, ?_, fun retry h => hstay 5 retry h (by decide)⟩
  have hword : ∀ retry ∈ [1, 2, 3, 4, 5], retry ≤ 32 := by decide
  have hdelay : [1, 2, 3, 4, 5].map standard.delay = [1, 2, 3, 4, 5].map standard.doubled :=
    List.map_congr_left fun retry h => (hdoubled retry).mpr (.inl (hword retry h))
  rw [hdelay]
  decide

/-- A millisecond doubled 32 times is past the greatest word of them: the wait is a millisecond
short, and the limit, which the next wait should meet, is never met. -/
theorem millisecond_short_after_word :
    let b : Backoff := ⟨.ofMilliseconds 1, .ofMilliseconds 5000000000⟩
    let text := "[execution]\nretry_backoff_ms = 1\nretry_backoff_max_ms = 5000000000\n"
    (Settings.read? "home" text).map Settings.backoff = some b ∧ b.IsBounded ∧
    b.doubled 33 = .ofMilliseconds 4294967296 ∧ b.delay 33 = .ofMilliseconds 4294967295 ∧
    b.doubled 34 = b.limit ∧ b.delay 34 = .ofMilliseconds 4294967295 := by
  decide +kernel

end Runbook.Backoff
