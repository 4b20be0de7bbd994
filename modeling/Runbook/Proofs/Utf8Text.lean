import Mathlib.Tactic.SplitIfs
import Runbook.Text.Utf8

/-!
Texts in octets. Main statements: an octet of the lower half stands for its own character wherever
it is, and ends what was begun before it, so a text can be taken apart at it before or after it is
read; and reading what was written gives the text back.
-/

namespace Runbook.Text.Utf8

/-! ### What is read octet by octet -/

/-- A character that is read on from here lies in the upper half: the octets that go on are
continuations, and the bits so far are more than those of the lower half. -/
structure Started.IsHigh (s : Started) : Prop where
  least : 0x80 ≤ s.least.toNat
  greatest : s.greatest.toNat ≤ 0xBF
  bits : 2 ≤ s.bits * 0x40 + s.least.toNat % 0x40
  last : s.missing ≤ 1 → 2 ≤ s.bits

def IsState (state : Option Started) : Prop := ∀ s, state = some s → s.IsHigh

theorem isState_none : IsState none := nofun

theorem isHigh_of_lead? {b : UInt8} {s : Started} (h : lead? b = some s) : s.IsHigh := by
  simp only [lead?, UInt8.le_iff_toNat_le, ← UInt8.toNat_inj, UInt8.reduceToNat] at h
  split_ifs at h
  all_goals
    obtain rfl := Option.some.inj h
    exact ⟨by simp, by simp, by simp only [UInt8.reduceToNat]; omega, by simp only; omega⟩

theorem isState_openWith (b : UInt8) : IsState (openWith b).2 := by
  intro s hs
  unfold openWith at hs
  split_ifs at hs
  cases hlead : lead? b with
  | none => simp [hlead] at hs
  | some started =>
    rw [hlead] at hs
    obtain rfl := Option.some.inj hs
    exact isHigh_of_lead? hlead

theorem isState_step {state : Option Started} (h : IsState state) (b : UInt8) :
    IsState (step state b).2 := by
  cases state with
  | none => exact isState_openWith b
  | some started =>
    obtain ⟨hleast, hgreatest, hbits, _⟩ := h started rfl
    intro s hs
    simp only [step, UInt8.le_iff_toNat_le] at hs
    split_ifs at hs with hin hlast
    · obtain rfl := Option.some.inj hs
      exact ⟨by simp, by simp, by simp only [UInt8.reduceToNat]; omega,
        fun _ => by simp only; omega⟩
    · exact isState_openWith b s hs

/-- Octets lead to a state, with some characters on the way, whatever comes after them. -/
theorem exists_decodeFrom_append {state : Option Started} (h : IsState state) (a : List UInt8) :
    ∃ chars next, IsState next ∧
      ∀ rest, decodeFrom state (a ++ rest) = chars ++ decodeFrom next rest := by
  induction a generalizing state with
  | nil => exact ⟨[], state, h, fun _ => rfl⟩
  | cons b a ih =>
    obtain ⟨chars, next, hnext, happend⟩ := ih (isState_step h b)
    refine ⟨(step state b).1 ++ chars, next, hnext, fun rest => ?_⟩
    rw [List.append_assoc, ← happend rest]
    rfl

/-! ### The lower half -/

theorem toNat_ofNat_of_isValidChar {n : Nat} (h : n.isValidChar) : (Char.ofNat n).toNat = n := by
  rw [Char.ofNat, dif_pos h]
  rfl

def lower (b : UInt8) : Char := Char.ofNat b.toNat

theorem toNat_lower {b : UInt8} (h : b < 0x80) : (lower b).toNat = b.toNat := by
  have hb : b.toNat < 0x80 := UInt8.lt_iff_toNat_lt.mp h
  exact toNat_ofNat_of_isValidChar (.inl (by omega))

theorem step_lower {state : Option Started} (h : IsState state) {b : UInt8} (hb : b < 0x80) :
    step state b = (decodeFrom state [] ++ [lower b], none) := by
  cases state with
  | none => simp [step, openWith, hb, decodeFrom, lower]
  | some started =>
    have hleast := (h started rfl).least
    have hout : ¬ (started.least ≤ b ∧ b ≤ started.greatest) := by
      have hlow : b.toNat < 0x80 := UInt8.lt_iff_toNat_lt.mp hb
      rw [UInt8.le_iff_toNat_le]
      omega
    simp [step, openWith, hout, hb, decodeFrom, lower]

/-- A text can be taken apart at an octet of the lower half. -/
theorem decodeFrom_append_lower {state : Option Started} (h : IsState state) (a : List UInt8)
    {b : UInt8} (hb : b < 0x80) (rest : List UInt8) :
    decodeFrom state (a ++ b :: rest) = decodeFrom state a ++ lower b :: decodeFrom none rest := by
  obtain ⟨chars, next, hnext, happend⟩ := exists_decodeFrom_append h a
  have ha : decodeFrom state a = chars ++ decodeFrom next [] := by
    rw [← happend [], List.append_nil]
  have hb : decodeFrom next (b :: rest) =
      decodeFrom next [] ++ lower b :: decodeFrom none rest := by
    simp only [decodeFrom.eq_2, step_lower hnext hb, List.append_assoc, List.singleton_append]
  rw [happend, ha, hb, List.append_assoc]

/-- A character of the lower half comes from its own octet; only the first one may also stand for
what is no character. -/
theorem eq_of_mem_step {state : Option Started} (h : IsState state) {b : UInt8} {c : Char}
    (hc : c ∈ (step state b).1) (hpos : 0 < c.toNat) (hlow : c.toNat < 0x80) :
    b.toNat = c.toNat := by
  have hreplacement : c ≠ replacement := by
    rintro rfl
    simp [replacement] at hlow
  have hopen : c ∈ (openWith b).1 → b.toNat = c.toNat := by
    intro hc
    unfold openWith at hc
    split_ifs at hc with hb
    · rw [List.mem_singleton.mp hc]
      exact (toNat_lower hb).symm
    · cases hlead : lead? b <;> simp [hlead, hreplacement] at hc
  cases state with
  | none => exact hopen hc
  | some started =>
    obtain ⟨hleast, hgreatest, _, hlast⟩ := h started rfl
    simp only [step, UInt8.le_iff_toNat_le] at hc
    split_ifs at hc with hin hmissing
    · have hbits := hlast hmissing
      obtain rfl := List.mem_singleton.mp hc
      by_cases hvalid : (started.bits * 0x40 + b.toNat % 0x40).isValidChar
      · rw [toNat_ofNat_of_isValidChar hvalid] at hlow
        omega
      · rw [Char.ofNat, dif_neg hvalid] at hpos
        exact absurd hpos (Nat.lt_irrefl 0)
    · cases hc
    · rcases List.mem_cons.mp hc with hc | hc
      · exact absurd hc hreplacement
      · exact hopen hc

/-- What is left open at the end is shown there. -/
theorem mem_decodeFrom_nil {state : Option Started} {c : Char} (h : c ∈ decodeFrom state []) :
    c = replacement := by
  unfold decodeFrom at h
  split_ifs at h
  · exact List.mem_singleton.mp h
  · cases h

/-- Every character of the lower half that is read was written as its own octet. -/
theorem exists_mem_of_mem_decodeFrom {state : Option Started} (h : IsState state)
    {octets : List UInt8} {c : Char} (hc : c ∈ decodeFrom state octets) (hpos : 0 < c.toNat)
    (hlow : c.toNat < 0x80) : ∃ b ∈ octets, b.toNat = c.toNat := by
  induction octets generalizing state with
  | nil =>
    rw [mem_decodeFrom_nil hc] at hlow
    exact absurd hlow (by decide)
  | cons b rest ih =>
    rcases List.mem_append.mp hc with hc | hc
    · exact ⟨b, List.mem_cons_self, eq_of_mem_step h hc hpos hlow⟩
    · obtain ⟨other, hmem, hother⟩ := ih (isState_step h b) hc
      exact ⟨other, List.mem_cons_of_mem b hmem, hother⟩

theorem decodeFrom_singleton_ne_nil (state : Option Started) (b : UInt8) :
    decodeFrom state [b] ≠ [] := by
  have hopen : (openWith b).1 ≠ [] ∨ (openWith b).2.isSome = true := by
    unfold openWith
    split_ifs
    · exact .inl (List.cons_ne_nil _ _)
    · cases lead? b <;> simp
  have hstep : (step state b).1 ≠ [] ∨ (step state b).2.isSome = true := by
    cases state with
    | none => exact hopen
    | some started =>
      simp only [step]
      split_ifs <;> simp
  rcases hstep with h | h
  · simp [decodeFrom, h]
  · simp [decodeFrom, h]

/-- A text that ends with a character of the lower half ends with its octet. -/
theorem eq_of_getLast?_decodeFrom {state : Option Started} (h : IsState state) {a : List UInt8}
    {b : UInt8} {c : Char} (hc : (decodeFrom state (a ++ [b])).getLast? = some c)
    (hpos : 0 < c.toNat) (hlow : c.toNat < 0x80) : b.toNat = c.toNat := by
  obtain ⟨chars, next, hnext, happend⟩ := exists_decodeFrom_append h a
  have hlast := List.getLast?_eq_some_getLast (decodeFrom_singleton_ne_nil next b)
  rw [happend, List.getLast?_append, hlast, Option.some_or, ← hlast] at hc
  have hmem : c ∈ (step next b).1 ++ decodeFrom (step next b).2 [] := List.mem_of_getLast? hc
  rcases List.mem_append.mp hmem with hmem | hmem
  · exact eq_of_mem_step hnext hmem hpos hlow
  · rw [mem_decodeFrom_nil hmem] at hlow
    exact absurd hlow (by decide)

/-! ### What is written -/

theorem encode_eq (s : String) : encode s = s.toList.flatMap String.utf8EncodeChar := by
  have hs : s.toByteArray = s.toList.utf8Encode := by
    rw [← String.toByteArray_ofList, String.ofList_toList]
  rw [encode, String.toUTF8, hs, List.utf8Encode]
  simp

/-- An octet that goes on with six bits of a number. -/
def continuation (n : Nat) : UInt8 := UInt8.ofNat (n % 64 + 128)

theorem toNat_continuation (n : Nat) : (continuation n).toNat = n % 64 + 128 := by
  rw [continuation, UInt8.toNat_ofNat']
  omega

section Continued

variable {s : Started} {n : Nat} (hleast : s.least.toNat ≤ n % 64 + 128)
  (hgreatest : n % 64 + 128 ≤ s.greatest.toNat)

include hleast hgreatest

theorem step_continuation : step (some s) (continuation n) =
    if s.missing ≤ 1 then ([Char.ofNat (s.bits * 0x40 + n % 64)], none)
    else ([], some ⟨s.missing - 1, 0x80, 0xBF, s.bits * 0x40 + n % 64⟩) := by
  have hin : s.least ≤ continuation n ∧ continuation n ≤ s.greatest := by
    rw [UInt8.le_iff_toNat_le, UInt8.le_iff_toNat_le, toNat_continuation]
    exact ⟨hleast, hgreatest⟩
  have hbits : (n % 64 + 128) % 64 = n % 64 := by omega
  simp only [step, if_pos hin, toNat_continuation, hbits]

theorem decodeFrom_continuation (hmissing : 1 < s.missing) (rest : List UInt8) :
    decodeFrom (some s) (continuation n :: rest) =
      decodeFrom (some ⟨s.missing - 1, 0x80, 0xBF, s.bits * 0x40 + n % 64⟩) rest := by
  simp only [decodeFrom.eq_2, step_continuation hleast hgreatest, if_neg (Nat.not_le.mpr hmissing),
    List.nil_append]

theorem decodeFrom_last (hmissing : s.missing ≤ 1) (rest : List UInt8) :
    decodeFrom (some s) (continuation n :: rest) =
      Char.ofNat (s.bits * 0x40 + n % 64) :: decodeFrom none rest := by
  simp only [decodeFrom.eq_2, step_continuation hleast hgreatest, if_pos hmissing,
    List.singleton_append]

end Continued

theorem decodeFrom_lead {b : UInt8} {s : Started} (h : lead? b = some s) (hb : 0x80 ≤ b.toNat)
    (rest : List UInt8) : decodeFrom none (b :: rest) = decodeFrom (some s) rest := by
  have hopen : ¬ b < 0x80 := by
    rw [UInt8.lt_iff_toNat_lt]
    exact Nat.not_lt.mpr hb
  simp only [decodeFrom.eq_2, step, openWith, if_neg hopen, h, List.nil_append]

section Lead

variable {v : Nat}

theorem lead?_two (h : 0x80 ≤ v) (hv : v < 0x800) :
    lead? (UInt8.ofNat (v / 64 % 32 + 192)) = some ⟨1, 0x80, 0xBF, v / 64⟩ := by
  simp only [lead?, UInt8.le_iff_toNat_le, ← UInt8.toNat_inj, UInt8.toNat_ofNat', UInt8.reduceToNat]
  rw [if_pos (by omega)]
  simp only [Option.some.injEq, Started.mk.injEq, true_and]
  omega

/-- The bounds of the second octet leave out longer encodings and surrogates. -/
theorem lead?_three (h : 0x800 ≤ v) (hv : v < 0xD800 ∨ 0xDFFF < v ∧ v < 0x10000) :
    ∃ least greatest, lead? (UInt8.ofNat (v / 4096 % 16 + 224)) =
        some ⟨2, least, greatest, v / 4096⟩ ∧
      least.toNat ≤ v / 64 % 64 + 128 ∧ v / 64 % 64 + 128 ≤ greatest.toNat := by
  simp only [lead?, UInt8.le_iff_toNat_le, ← UInt8.toNat_inj, UInt8.toNat_ofNat', UInt8.reduceToNat]
  rw [if_neg (by omega)]
  split_ifs with hfirst hsurrogates
  · refine ⟨0xA0, 0xBF, ?_, ?_⟩
    · rw [show v / 4096 = 0 by omega]
    · simp only [UInt8.reduceToNat]
      omega
  · refine ⟨0x80, 0x9F, ?_, ?_⟩
    · rw [show v / 4096 = 0xD by omega]
    · simp only [UInt8.reduceToNat]
      omega
  · refine ⟨0x80, 0xBF, ?_, ?_⟩
    · rw [show (v / 4096 % 16 + 224) % 2 ^ 8 % 16 = v / 4096 by omega]
    · simp only [UInt8.reduceToNat]
      omega
  all_goals omega

theorem lead?_four (h : 0x10000 ≤ v) (hv : v < 0x110000) :
    ∃ least greatest, lead? (UInt8.ofNat (v / 262144 % 8 + 240)) =
        some ⟨3, least, greatest, v / 262144⟩ ∧
      least.toNat ≤ v / 4096 % 64 + 128 ∧ v / 4096 % 64 + 128 ≤ greatest.toNat := by
  simp only [lead?, UInt8.le_iff_toNat_le, ← UInt8.toNat_inj, UInt8.toNat_ofNat', UInt8.reduceToNat]
  rw [if_neg (by omega), if_neg (by omega), if_neg (by omega), if_neg (by omega)]
  split_ifs with hfirst hlast
  · refine ⟨0x90, 0xBF, ?_, ?_⟩
    · rw [show v / 262144 = 0 by omega]
    · simp only [UInt8.reduceToNat]
      omega
  · refine ⟨0x80, 0x8F, ?_, ?_⟩
    · rw [show v / 262144 = 4 by omega]
    · simp only [UInt8.reduceToNat]
      omega
  · refine ⟨0x80, 0xBF, ?_, ?_⟩
    · rw [show (v / 262144 % 8 + 240) % 2 ^ 8 % 8 = v / 262144 by omega]
    · simp only [UInt8.reduceToNat]
      omega
  · omega

end Lead

theorem decodeFrom_encodeChar (c : Char) (rest : List UInt8) :
    decodeFrom none (String.utf8EncodeChar c ++ rest) = c :: decodeFrom none rest := by
  have hvalid : c.toNat < 0xD800 ∨ 0xDFFF < c.toNat ∧ c.toNat < 0x110000 := c.valid
  have hc : ∀ n, n = c.toNat → Char.ofNat n = c := by
    rintro n rfl
    exact Char.ofNat_toNat c
  unfold String.utf8EncodeChar
  change decodeFrom none ((if c.toNat ≤ 127 then _ else if c.toNat ≤ 2047 then _ else
    if c.toNat ≤ 65535 then _ else _) ++ rest) = _
  split_ifs with hone htwo hthree
  · have hlow : UInt8.ofNat c.toNat < 0x80 := by
      rw [UInt8.lt_iff_toNat_lt, UInt8.toNat_ofNat']
      simp only [UInt8.reduceToNat]
      omega
    have hnumber : (UInt8.ofNat c.toNat).toNat = c.toNat := by
      rw [UInt8.toNat_ofNat']
      omega
    have happend := decodeFrom_append_lower isState_none [] hlow rest
    rw [lower, hnumber, Char.ofNat_toNat] at happend
    exact happend
  · have hlead := lead?_two (v := c.toNat) (by omega) (by omega)
    change decodeFrom none
      (UInt8.ofNat (c.toNat / 64 % 32 + 192) :: continuation c.toNat :: rest) = _
    rw [decodeFrom_lead hlead (by rw [UInt8.toNat_ofNat']; omega),
      decodeFrom_last (by simp) (by simp; omega) (Nat.le_refl 1), hc _ (by simp only; omega)]
  · obtain ⟨least, greatest, hlead, hleast, hgreatest⟩ :=
      lead?_three (v := c.toNat) (by omega) (by omega)
    change decodeFrom none (UInt8.ofNat (c.toNat / 4096 % 16 + 224) ::
      continuation (c.toNat / 64) :: continuation c.toNat :: rest) = _
    rw [decodeFrom_lead hlead (by rw [UInt8.toNat_ofNat']; omega),
      decodeFrom_continuation hleast hgreatest (by simp),
      decodeFrom_last (by simp) (by simp; omega) (by simp), hc _ (by simp only; omega)]
  · obtain ⟨least, greatest, hlead, hleast, hgreatest⟩ :=
      lead?_four (v := c.toNat) (by omega) (by omega)
    change decodeFrom none (UInt8.ofNat (c.toNat / 262144 % 8 + 240) ::
      continuation (c.toNat / 4096) :: continuation (c.toNat / 64) :: continuation c.toNat ::
        rest) = _
    rw [decodeFrom_lead hlead (by rw [UInt8.toNat_ofNat']; omega),
      decodeFrom_continuation hleast hgreatest (by simp),
      decodeFrom_continuation (by simp) (by simp; omega) (by simp),
      decodeFrom_last (by simp) (by simp; omega) (by simp), hc _ (by simp only; omega)]

/-- A text is read back as it was written. -/
theorem decode_encode (s : String) : decode (encode s) = s := by
  have hread : ∀ cs : List Char, decodeFrom none (cs.flatMap String.utf8EncodeChar) = cs := by
    intro cs
    induction cs with
    | nil => rfl
    | cons c cs ih => rw [List.flatMap_cons, decodeFrom_encodeChar, ih]
  rw [decode, encode_eq, hread, String.ofList_toList]

end Runbook.Text.Utf8
