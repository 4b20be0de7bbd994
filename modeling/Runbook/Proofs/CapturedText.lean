import Mathlib.Order.MinMax
import Runbook.Capture
import Runbook.Proofs.GuardReading

/-!
What captures take from the lines of a command. Main statement: a range of lines captures just the
lines whose numbers lie in it, unless it begins at the least word, before which there is none.
-/

namespace Runbook.Extraction

/-! ### Ranges of lines -/

/-- The lines whose numbers, counted from one, are neither below `low` nor above `high`. -/
def numbered (low high : Int) (lines : List String) : List String :=
  ((lines.zipIdx 1).filter fun line => low ≤ line.2 && line.2 ≤ high).map Prod.fst

/-- Lines numbered from any number on: those after the first few, as far as the last one. -/
theorem map_filter_zipIdx (start stop k : Nat) (lines : List String) :
    ((lines.zipIdx (k + 1)).filter fun line => start < line.2 && line.2 ≤ stop).map Prod.fst =
      (lines.take (stop - k)).drop (start - k) := by
  induction lines generalizing k with
  | nil => simp
  | cons line rest ih =>
    rw [List.zipIdx_cons, List.filter_cons]
    by_cases hstop : k + 1 ≤ stop
    · have htake : stop - k = (stop - (k + 1)) + 1 := by omega
      by_cases hstart : start < k + 1
      · have hdrop : start - k = 0 := by omega
        have hdrop' : start - (k + 1) = 0 := by omega
        simp [hstart, hstop, ih, htake, hdrop, hdrop']
      · have hdrop : start - k = (start - (k + 1)) + 1 := by omega
        simp [hstart, ih, htake, hdrop]
    · have htake : stop - k = 0 := by omega
      have htake' : stop - (k + 1) = 0 := by omega
      simp only [hstop, decide_false, Bool.and_false, Bool.false_eq_true, ↓reduceIte, ih, htake,
        htake', List.take_zero, List.drop_nil]

theorem drop_take_eq_numbered {low high : Int} (hlow : 1 ≤ low) (lines : List String) :
    (lines.take high.toNat).drop (low - 1).toNat = numbered low high lines := by
  have hlines := map_filter_zipIdx (low - 1).toNat high.toNat 0 lines
  rw [Nat.sub_zero, Nat.sub_zero, Nat.zero_add] at hlines
  rw [← hlines, numbered]
  congr 1
  apply List.filter_congr
  intro line hline
  have hnumber : 1 ≤ line.2 := (List.mem_zipIdx hline).1
  rw [← Bool.decide_and, ← Bool.decide_and, decide_eq_decide]
  omega

/-- Above the least word the number of lines to leave out is found. -/
theorem toInt_max_pred {first : Int64} (h : first ≠ Int64.minValue) :
    (max (first - 1) 0).toInt = max first.toInt 1 - 1 := by
  have hlow := Int64.le_toInt first
  have hhigh := Int64.toInt_lt first
  have hne : first.toInt ≠ -2 ^ 63 := fun heq => h (Int64.toInt.inj heq)
  have hpred : (first - 1).toInt = first.toInt - 1 := by
    rw [Int64.toInt_sub, Int64.toInt_one]
    exact Int.bmod_eq_of_le (by omega) (by omega)
  by_cases hle : first - 1 ≤ 0
  · have hmax : max (first - 1) 0 = 0 := if_pos hle
    have hle' : first.toInt - 1 ≤ 0 := by simpa [Int64.le_iff_toInt_le, hpred] using hle
    rw [hmax, max_eq_right (by omega)]
    rfl
  · have hmax : max (first - 1) 0 = first - 1 := if_neg hle
    have hle' : ¬ first.toInt - 1 ≤ 0 := by simpa [Int64.le_iff_toInt_le, hpred] using hle
    rw [hmax, max_eq_left (by omega), hpred]

/-- At the least word it is below all words, and no range ends before that word. -/
theorem lineRange?_least (last : Int64) (lines : List String) :
    lineRange? Int64.minValue last lines = .error .overflow := by
  have hleast : ¬ last < Int64.minValue := by
    have hlow := Int64.le_toInt last
    rw [Int64.lt_iff_toInt_lt, Int64.toInt_minValue]
    omega
  rw [lineRange?, if_neg hleast]
  rfl

theorem lineRange?_eq {first : Int64} (h : first ≠ Int64.minValue) (last : Int64)
    (lines : List String) :
    lineRange? first last lines = .ok
      (if min last.toInt lines.length < max first.toInt 1 then none
      else some (joinLines (numbered (max first.toInt 1) (min last.toInt lines.length) lines))) := by
  have hlow : 1 ≤ max first.toInt 1 := le_max_right _ _
  rw [← drop_take_eq_numbered hlow]
  unfold lineRange?
  simp only [Int64.lt_iff_toInt_lt]
  split
  case isTrue hlast =>
    rw [if_pos (by omega)]
    rfl
  case isFalse hlast =>
    have hstart : (max (first - 1) 0).toInt.toNat = (max first.toInt 1 - 1).toNat := by
      rw [toInt_max_pred h]
    simp only [Word.previous, if_neg h, bind, Except.bind, pure, Except.pure, hstart]
    congr 2
    rw [eq_iff_iff]
    omega

theorem extractionOf_line {fields : Fields} {range : Document} {x y : Float} (index : Nat)
    (location : Location) (hkey : deciding? fields = some "line")
    (hrange : fields.get? "line" = some range)
    (hfirst : (range.field? "from").bind Document.asFloat? = some x)
    (hlast : (range.field? "to").bind Document.asFloat? = some y) :
    RunStep.extractionOf fields index location = .found (.lines x.toInt64 y.toInt64) := by
  have habsent : ∀ key ∈ ["regex", "json", "yaml", "yml", "kv", "after", "before"],
      fields.has key = false := by
    have hfind : (["regex", "json", "yaml", "yml", "kv", "after", "before"] ++ ["line"]).find?
        fields.has = some "line" := hkey
    rw [List.find?_append] at hfind
    intro key hmem
    cases hearlier : (["regex", "json", "yaml", "yml", "kv", "after", "before"].find?
        fields.has) with
    | none => simpa using List.find?_eq_none.mp hearlier key hmem
    | some other =>
      obtain rfl : other = "line" := by simpa [hearlier] using hfind
      exact absurd (List.mem_of_find?_eq_some hearlier) (by decide)
  simp only [List.mem_cons, List.not_mem_nil, or_false, forall_eq_or_imp, forall_eq] at habsent
  simp only [RunStep.extractionOf, habsent, Bool.false_eq_true, ↓reduceIte, Bool.false_and, hrange]
  simp [hfirst, hlast, RunStep.boundOf]

/-- A range of lines captures nothing if it holds no number of a line, and otherwise the lines whose
numbers lie in it, counted from one. One that begins at the least word overflows, since there is no
word before it. Two numbers of a document are the ends of such a range, cut to words. -/
theorem lines_in_range_captured (first last : Int64) (lines : List String) :
    (Extraction.lines first last).apply lines =
      (if first = Int64.minValue then .error .overflow
      else .ok (if min last.toInt lines.length < max first.toInt 1 then none
        else some (joinLines
          (numbered (max first.toInt 1) (min last.toInt lines.length) lines)))) ∧
    ∀ (fields : Fields) (range : Document) (x y : Float) (index : Nat) (location : Location),
      deciding? fields = some "line" → fields.get? "line" = some range →
      (range.field? "from").bind Document.asFloat? = some x →
      (range.field? "to").bind Document.asFloat? = some y →
      x.toInt64 = first → y.toInt64 = last →
      RunStep.extractionOf fields index location = .found (.lines first last) := by
  constructor
  · by_cases h : first = Int64.minValue
    · rw [if_pos h, h]
      exact lineRange?_least last lines
    · rw [if_neg h]
      exact lineRange?_eq h last lines
  · rintro fields range x y index location hkind hrange hx hy rfl rfl
    exact extractionOf_line index location hkind hrange hx hy

/-- The second and the third of three lines. -/
theorem lines_in_range_captured_clamped :
    (Extraction.lines 2 9).apply ["a", "b", "c"] = .ok (some "b\nc") ∧
    RunStep.extractionOf [("as", .text "v"),
        ("line", .object [("from", .integer 2), ("to", .integer 9)])] 0 (.step 0) =
      .found (.lines (Float.ofInt 2).toInt64 (Float.ofInt 9).toInt64) := by
  constructor
  · rw [(lines_in_range_captured 2 9 ["a", "b", "c"]).1, if_neg (by decide), if_neg (by decide)]
    decide +kernel
  · exact (lines_in_range_captured _ _ []).2 _ _ _ _ 0 (.step 0) (by decide) rfl rfl rfl rfl rfl

/-- A range from the least word on has all lines up to its end in it, but overflows. -/
theorem lines_from_least_word_lost :
    min (2 : Int64).toInt ["a", "b", "c"].length = 2 ∧ max Int64.minValue.toInt 1 = 1 ∧
    numbered 1 2 ["a", "b", "c"] = ["a", "b"] ∧
    (Extraction.lines Int64.minValue 2).apply ["a", "b", "c"] = .error .overflow ∧
    (Extraction.lines (Int64.minValue + 1) 2).apply ["a", "b", "c"] = .ok (some "a\nb") := by
  decide +kernel

end Runbook.Extraction
