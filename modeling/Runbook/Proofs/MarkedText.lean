import Runbook.Capture
import Runbook.Proofs.TextCuts

/-!
Values taken from a text at markers. Main statement: the text is cut at the first occurrence of a
marker, and for two markers what is left then at the first occurrence of the second one; the parts
are trimmed after that, and none has the marker in it that ends it.
-/

namespace Runbook.Extraction

variable {marker opening closing value : String} {lines : List String} {s before after : List Char}

/-! ### Cuts at a marker -/

theorem cutAt?_empty : cutAt? "" s = none := rfl

theorem cutAt?_of_ne (hmarker : marker ≠ "") : cutAt? marker s = Text.cut marker.toList s := by
  rw [cutAt?, if_neg]
  rwa [String.isEmpty_iff]

theorem cutAt?_eq_some_iff : cutAt? marker s = some (before, after) ↔
    marker ≠ "" ∧ Text.SplitsAt marker.toList s before after := by
  by_cases hmarker : marker = ""
  · subst hmarker
    rw [cutAt?_empty]
    exact iff_of_false (by simp) fun h => h.1 rfl
  · rw [cutAt?_of_ne hmarker, Text.cut_eq_some_iff, and_iff_right hmarker]

theorem isSome_cutAt?_iff (hmarker : marker ≠ "") :
    (cutAt? marker s).isSome = true ↔ marker.toList <:+: s := by
  rw [cutAt?_of_ne hmarker, Option.isSome_iff_ne_none, ne_eq, Text.cut_eq_none_iff, not_not]

theorem map_cutAt?_eq_some_iff {f : List Char × List Char → String} :
    (cutAt? marker s).map f = some value ↔ marker ≠ "" ∧
      ∃ before after, Text.SplitsAt marker.toList s before after ∧ value = f (before, after) := by
  simp only [Option.map_eq_some_iff, Prod.exists, cutAt?_eq_some_iff]
  constructor
  · rintro ⟨before, after, ⟨hmarker, hsplits⟩, rfl⟩
    exact ⟨hmarker, before, after, hsplits, rfl⟩
  · rintro ⟨hmarker, before, after, hsplits, rfl⟩
    exact ⟨before, after, ⟨hmarker, hsplits⟩, rfl⟩

theorem not_isInfix_of_splitsAt (hmarker : marker ≠ "")
    (h : Text.SplitsAt marker.toList s before after) :
    ¬ marker.toList <:+: (trimmedString before).toList := by
  intro hmem
  rw [trimmedString, String.toList_ofList] at hmem
  have hfilled : marker.toList ≠ [] := fun hnil => hmarker (String.toList_eq_nil_iff.mp hnil)
  exact h.not_isInfix hfilled (hmem.trans (Text.trim_infix before))

/-! ### Captures -/

theorem exists_captured_iff {captured : Computed (Option String)} {value? : Option String}
    (h : captured = .ok value?) :
    (∃ value, captured = .ok (some value)) ↔ value?.isSome = true := by
  subst h
  simp [Option.isSome_iff_exists]

theorem before_eq_some_iff : (Extraction.before marker).apply lines = .ok (some value) ↔
    marker ≠ "" ∧ ∃ before after,
      Text.SplitsAt marker.toList (joinLines lines).toList before after ∧
        value = trimmedString before :=
  (Except.ok.injEq ..).to_iff.trans map_cutAt?_eq_some_iff

theorem after_eq_some_iff : (Extraction.after marker).apply lines = .ok (some value) ↔
    marker ≠ "" ∧ ∃ before after,
      Text.SplitsAt marker.toList (joinLines lines).toList before after ∧
        value = trimmedString after :=
  (Except.ok.injEq ..).to_iff.trans map_cutAt?_eq_some_iff

theorem between?_eq : between? opening closing s =
    (cutAt? opening s).bind fun parts =>
      (cutAt? closing parts.2).map fun parts => trimmedString parts.1 := by
  by_cases hclosing : closing = ""
  · subst hclosing
    simp only [cutAt?_empty, Option.map_none, Option.bind_fun_none]
    rfl
  · have hfilled : closing.isEmpty = false := by
      rwa [← Bool.not_eq_true, String.isEmpty_iff]
    simp only [between?, hfilled, Option.map_eq_bind]
    rfl

theorem between_eq_some_iff :
    (Extraction.between opening closing).apply lines = .ok (some value) ↔
    opening ≠ "" ∧ closing ≠ "" ∧ ∃ before rest inner after,
      Text.SplitsAt opening.toList (joinLines lines).toList before rest ∧
      Text.SplitsAt closing.toList rest inner after ∧ value = trimmedString inner := by
  refine (Except.ok.injEq ..).to_iff.trans ?_
  simp only [between?_eq, Option.bind_eq_some_iff, Prod.exists, cutAt?_eq_some_iff,
    map_cutAt?_eq_some_iff]
  constructor
  · rintro ⟨before, rest, ⟨hopening, hsplits⟩, hclosing, inner, after, hinner, rfl⟩
    exact ⟨hopening, hclosing, before, rest, inner, after, hsplits, hinner, rfl⟩
  · rintro ⟨hopening, hclosing, before, rest, inner, after, hsplits, hinner, rfl⟩
    exact ⟨before, rest, ⟨hopening, hsplits⟩, hclosing, inner, after, hinner, rfl⟩

theorem isSome_between?_iff (hopening : opening ≠ "") (hclosing : closing ≠ "") :
    (between? opening closing s).isSome = true ↔
      ∃ before rest, Text.SplitsAt opening.toList s before rest ∧ closing.toList <:+: rest := by
  simp only [between?_eq, Option.isSome_bind, Option.isSome_map, Option.any_eq_true, Prod.exists,
    cutAt?_eq_some_iff, isSome_cutAt?_iff hclosing, and_iff_right hopening]

/-- A text is captured from around a marker exactly if the marker occurs, and it is what stands in
front of its first occurrence, or after that, trimmed. It is captured from between two markers
exactly if the second one occurs after the first occurrence of the first one, and it is what stands
there in front of its first occurrence, trimmed. What ends at a marker does not have it inside, and
at an empty marker nothing is captured. -/
theorem cut_at_first_occurrences (lines : List String) :
    (∀ b, b ≠ "" →
      ((∃ value, (Extraction.before b).apply lines = .ok (some value)) ↔
        b.toList <:+: (joinLines lines).toList) ∧
      ((∃ value, (Extraction.after b).apply lines = .ok (some value)) ↔
        b.toList <:+: (joinLines lines).toList) ∧
      ∀ value,
        ((Extraction.before b).apply lines = .ok (some value) ↔ ∃ before after,
          Text.SplitsAt b.toList (joinLines lines).toList before after ∧
            value = trimmedString before) ∧
        ((Extraction.after b).apply lines = .ok (some value) ↔ ∃ before after,
          Text.SplitsAt b.toList (joinLines lines).toList before after ∧
            value = trimmedString after)) ∧
    (∀ a b, a ≠ "" → b ≠ "" →
      ((∃ value, (Extraction.between a b).apply lines = .ok (some value)) ↔ ∃ before rest,
        Text.SplitsAt a.toList (joinLines lines).toList before rest ∧ b.toList <:+: rest) ∧
      ∀ value, (Extraction.between a b).apply lines = .ok (some value) ↔
        ∃ before rest inner after, Text.SplitsAt a.toList (joinLines lines).toList before rest ∧
          Text.SplitsAt b.toList rest inner after ∧ value = trimmedString inner) ∧
    (∀ a b value, (Extraction.before b).apply lines = .ok (some value) ∨
        (Extraction.between a b).apply lines = .ok (some value) →
      ¬ b.toList <:+: value.toList) ∧
    ∀ b, (Extraction.before "").apply lines = .ok none ∧
      (Extraction.after "").apply lines = .ok none ∧
      (Extraction.between "" b).apply lines = .ok none ∧
      (Extraction.between b "").apply lines = .ok none := by
  refine ⟨fun b hb => ⟨?_, ?_, fun value => ⟨?_, ?_⟩⟩, fun a b ha hb => ⟨?_, fun value => ?_⟩,
    fun a b value hvalue => ?_, fun b => ⟨rfl, rfl, ?_, ?_⟩⟩
  · refine (exists_captured_iff rfl).trans ?_
    rw [Option.isSome_map, isSome_cutAt?_iff hb]
  · refine (exists_captured_iff rfl).trans ?_
    rw [Option.isSome_map, isSome_cutAt?_iff hb]
  · rw [before_eq_some_iff, and_iff_right hb]
  · rw [after_eq_some_iff, and_iff_right hb]
  · exact (exists_captured_iff rfl).trans (isSome_between?_iff ha hb)
  · rw [between_eq_some_iff, and_iff_right ha, and_iff_right hb]
  · rcases hvalue with hvalue | hvalue
    · obtain ⟨hb, before, after, hsplits, rfl⟩ := before_eq_some_iff.mp hvalue
      exact not_isInfix_of_splitsAt hb hsplits
    · obtain ⟨_, hb, _, rest, inner, after, _, hinner, rfl⟩ := between_eq_some_iff.mp hvalue
      exact not_isInfix_of_splitsAt hb hinner
  · rw [Extraction.apply, between?_eq, cutAt?_empty]
    rfl
  · rw [Extraction.apply, between?_eq]
    simp only [cutAt?_empty, Option.map_none, Option.bind_fun_none]
    rfl

/-- One marker for both ends, in two lines. -/
theorem cut_at_first_occurrences_same :
    let lines := ["a|| b", "|| c ||"]
    ((Extraction.after "||").apply lines = .ok (some "b\n|| c ||") ∧
      "||".toList <:+: (joinLines lines).toList) ∧
    (Extraction.between "||" "||").apply lines = .ok (some "b") ∧ ¬ "||".toList <:+: "b".toList := by
  intro lines
  have hafter : (Extraction.after "||").apply lines = .ok (some "b\n|| c ||") := by
    decide +kernel
  have hbetween : (Extraction.between "||" "||").apply lines = .ok (some "b") := by
    refine (((cut_at_first_occurrences lines).2.1 "||" "||" (by decide) (by decide)).2 "b").mpr ?_
    have hfirst : Text.cut "||".toList (joinLines lines).toList =
        some ("a".toList, " b\n|| c ||".toList) := by decide +kernel
    have hsecond : Text.cut "||".toList " b\n|| c ||".toList =
        some (" b\n".toList, " c ||".toList) := by decide +kernel
    exact ⟨_, _, _, _, Text.cut_eq_some_iff.mp hfirst, Text.cut_eq_some_iff.mp hsecond, by decide⟩
  refine ⟨⟨hafter, ?_⟩, hbetween, ?_⟩
  · exact ((cut_at_first_occurrences lines).1 "||" (by decide)).2.1.mp ⟨_, hafter⟩
  · exact (cut_at_first_occurrences lines).2.2.1 "||" "||" "b" (.inr hbetween)

end Runbook.Extraction
