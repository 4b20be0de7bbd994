/-!
Lines of a text. A line ends at a line feed; a carriage return before it belongs to the ending,
and the piece after the last line feed is a line only if it is not empty.
-/

namespace Runbook.Text

/-- The pieces between the occurrences of `sep`: one more than there are occurrences. -/
def splitAt (sep : Char) : List Char → List (List Char)
  | [] => [[]]
  | c :: s =>
    if c == sep then [] :: splitAt sep s
    else match splitAt sep s with
      | [] => [[c]]
      | piece :: pieces => (c :: piece) :: pieces

theorem splitAt_ne_nil (sep : Char) (s : List Char) : splitAt sep s ≠ [] := by
  cases s with
  | nil => simp [splitAt]
  | cons c s =>
    simp only [splitAt]
    split
    · simp
    · split <;> simp

def dropReturn (line : List Char) : List Char :=
  if line.getLast? = some '\r' then line.dropLast else line

def lines (s : List Char) : List (List Char) :=
  let pieces := splitAt '\n' s
  let ended := pieces.dropLast.map dropReturn
  match pieces.getLast? with
  | some (c :: rest) => ended ++ [c :: rest]
  | _ => ended

def cut (sep : List Char) : List Char → Option (List Char × List Char)
  | [] => if sep.isEmpty then some ([], []) else none
  | c :: s =>
    if sep.isPrefixOf (c :: s) then some ([], (c :: s).drop sep.length)
    else (cut sep s).map fun (before, after) => (c :: before, after)

theorem append_of_cut {sep s before after : List Char} (h : cut sep s = some (before, after)) :
    s = before ++ sep ++ after := by
  induction s generalizing before after with
  | nil =>
    simp only [cut] at h
    split at h
    · rename_i hs
      simp only [Option.some.injEq, Prod.mk.injEq] at h
      simp [← h.1, ← h.2, List.isEmpty_iff.1 hs]
    · simp at h
  | cons c s ih =>
    simp only [cut] at h
    split at h
    · rename_i hp
      obtain ⟨t, ht⟩ := List.isPrefixOf_iff_prefix.1 hp
      simp only [Option.some.injEq, Prod.mk.injEq] at h
      rw [← h.1, ← h.2, ← ht]
      simp
    · obtain ⟨⟨b, a⟩, hba, heq⟩ := Option.map_eq_some_iff.1 h
      simp only [Prod.mk.injEq] at heq
      rw [← heq.1, ← heq.2, ih hba]
      simp

end Runbook.Text

namespace Runbook

def linesOf (s : String) : List String := (Text.lines s.toList).map String.ofList

def joinLines (ls : List String) : String := "\n".intercalate ls

def splitText (sep : Char) (s : String) : List String :=
  (Text.splitAt sep s.toList).map String.ofList

/-- The text before the first occurrence of a character, and the text after it. -/
def cutText (sep : Char) (s : String) : Option (String × String) :=
  (Text.cut [sep] s.toList).map fun (before, after) => (String.ofList before, String.ofList after)

end Runbook
