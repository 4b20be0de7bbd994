import Runbook.Run.LineBuffer
import Runbook.Proofs.Utf8Text
import Runbook.Text.Line

/-!
The lines of a stream. Main statement: however a stream is cut into pieces, the lines that a buffer
makes of them are those of the whole stream, and it does not matter whether the stream is split
before it is read as a text or afterwards.
-/

namespace Runbook.LineBuffer

open Text.Utf8

/-- Takes the pieces of a stream in turn, and then what is left: all lines, and the buffer after
them. -/
def readAll (b : LineBuffer) : List (List UInt8) → List String × LineBuffer
  | [] =>
    let (last, b) := b.finish
    (last.toList, b)
  | piece :: rest =>
    let (lines, b) := b.push piece
    let (more, b) := readAll b rest
    (lines ++ more, b)

/-- What is left after the last line feed is a line if it has a character that is not blank. -/
def lastLine (rest : List Char) : List String :=
  if rest.any (!Text.isBlank ·) then [String.ofList rest] else []

def linesOfOctets (octets : List UInt8) : List String :=
  let parts := octets.splitOn lineFeed
  (parts.dropLast.map fun part => decode (dropReturn part)) ++
    lastLine (decode (parts.getLast?.getD [])).toList

def linesOfText (text : String) : List String :=
  let parts := text.toList.splitOn '\n'
  (parts.dropLast.map fun part => String.ofList (Text.dropReturn part)) ++
    lastLine (parts.getLast?.getD [])

/-! ### Pieces -/

theorem splitOn_cons (b : UInt8) (rest : List UInt8) : (b :: rest).splitOn lineFeed =
    if b == lineFeed then [] :: rest.splitOn lineFeed
    else (rest.splitOn lineFeed).modifyHead (List.cons b) :=
  List.splitOnP_cons_eq_if_modifyHead b rest

theorem segments_eq (octets : List UInt8) : segments octets =
    ((octets.splitOn lineFeed).dropLast, (octets.splitOn lineFeed).getLast?.getD []) := by
  induction octets with
  | nil => rfl
  | cons b rest ih =>
    obtain ⟨first, others, hparts⟩ :=
      List.exists_cons_of_ne_nil (List.splitOn_ne_nil lineFeed rest)
    rw [segments, ih, splitOn_cons, hparts]
    by_cases hb : b = lineFeed
    · simp [hb, List.getLast?_cons]
    · cases others with
      | nil => simp [hb]
      | cons second more => simp [hb, List.getLast?_cons]

/-- The octets after the last line feed go on with what comes after them. -/
theorem segments_append (a b : List UInt8) : segments (a ++ b) =
    ((segments a).1 ++ (segments ((segments a).2 ++ b)).1, (segments ((segments a).2 ++ b)).2) := by
  induction a with
  | nil => rfl
  | cons c a ih =>
    rw [List.cons_append]
    simp only [segments, ih]
    rcases segments a with ⟨complete, tail⟩
    by_cases hc : c = lineFeed
    · simp [hc]
    · cases complete with
      | nil => simp [hc, segments]
      | cons first others => simp [hc]

theorem segments_of_not_mem {octets : List UInt8} (h : lineFeed ∉ octets) :
    segments octets = ([], octets) := by
  rw [segments_eq, List.splitOn_eq_singleton h]
  rfl

theorem not_mem_segments (octets : List UInt8) : lineFeed ∉ (segments octets).2 := by
  induction octets with
  | nil => exact List.not_mem_nil
  | cons b rest ih =>
    simp only [segments]
    rcases hrest : segments rest with ⟨complete, tail⟩
    rw [hrest] at ih
    by_cases hb : b = lineFeed
    · simpa [hb] using ih
    · cases complete with
      | nil => simpa [hb, eq_comm] using ih
      | cons first others => simpa [hb] using ih

theorem linesOfOctets_eq (octets : List UInt8) : linesOfOctets octets =
    ((segments octets).1.map fun segment => decode (dropReturn segment)) ++
      lastLine (decode (segments octets).2).toList := by
  rw [segments_eq]
  rfl

theorem finish_eq (b : LineBuffer) :
    b.finish.1.toList = lastLine (decode b.pending).toList ∧ b.finish.2 = empty := by
  have hany : ((decode b.pending).toList.any (!Text.isBlank ·)) = !isBlank (decode b.pending) :=
    List.not_all_eq_any_not.symm
  refine ⟨?_, rfl⟩
  simp only [finish, lastLine, hany, String.ofList_toList]
  cases isBlank (decode b.pending) <;> rfl

theorem readAll_eq (pieces : List (List UInt8)) {kept : List UInt8} (h : lineFeed ∉ kept) :
    (⟨kept⟩ : LineBuffer).readAll pieces = (linesOfOctets (kept ++ pieces.flatten), empty) := by
  induction pieces generalizing kept with
  | nil =>
    obtain ⟨hlines, hempty⟩ := finish_eq ⟨kept⟩
    rw [List.flatten_nil, List.append_nil, linesOfOctets_eq, segments_of_not_mem h]
    exact Prod.ext hlines hempty
  | cons piece rest ih =>
    have hread : (⟨kept⟩ : LineBuffer).readAll (piece :: rest) =
        (((segments (kept ++ piece)).1.map fun segment => decode (dropReturn segment)) ++
            (readAll ⟨(segments (kept ++ piece)).2⟩ rest).1,
          (readAll ⟨(segments (kept ++ piece)).2⟩ rest).2) := rfl
    rw [hread, ih (not_mem_segments _), List.flatten_cons, ← List.append_assoc,
      linesOfOctets_eq (kept ++ piece ++ _), segments_append (kept ++ piece), linesOfOctets_eq,
      List.map_append, List.append_assoc]

/-! ### The stream as a text -/

theorem splitOn_decodeFrom (octets : List UInt8) :
    (decodeFrom none octets).splitOn '\n' = (octets.splitOn lineFeed).map (decodeFrom none) := by
  by_cases h : lineFeed ∈ octets
  · obtain ⟨before, after, rfl⟩ := List.append_of_mem h
    have hread := decodeFrom_append_lower isState_none before (b := lineFeed) (by decide) after
    have hoctets : (before ++ lineFeed :: after).splitOn lineFeed =
        before.splitOn lineFeed ++ after.splitOn lineFeed :=
      List.splitOnP_append_cons before after (beq_self_eq_true lineFeed)
    have htext : (decodeFrom none before ++ '\n' :: decodeFrom none after).splitOn '\n' =
        (decodeFrom none before).splitOn '\n' ++ (decodeFrom none after).splitOn '\n' :=
      List.splitOnP_append_cons _ _ (beq_self_eq_true '\n')
    rw [hread, hoctets, List.map_append, ← splitOn_decodeFrom before, ← splitOn_decodeFrom after]
    exact htext
  · have hmem : '\n' ∉ decodeFrom none octets := by
      intro hmem
      obtain ⟨b, hb, hfeed⟩ :=
        exists_mem_of_mem_decodeFrom isState_none hmem (by decide) (by decide)
      exact h ((UInt8.toNat_inj.mp hfeed : b = lineFeed) ▸ hb)
    rw [List.splitOn_eq_singleton h, List.splitOn_eq_singleton hmem]
    rfl
termination_by octets.length

theorem dropReturn_decodeFrom (segment : List UInt8) :
    Text.dropReturn (decodeFrom none segment) = decodeFrom none (dropReturn segment) := by
  rcases List.eq_nil_or_concat segment with rfl | ⟨before, b, rfl⟩
  · rfl
  rw [List.concat_eq_append]
  by_cases hb : b = carriageReturn
  · have hread : decodeFrom none (before ++ [b]) = decodeFrom none before ++ ['\r'] := by
      rw [hb]
      exact decodeFrom_append_lower isState_none before (by decide) []
    rw [dropReturn, if_pos (by simp [hb]), List.dropLast_concat, hread]
    simp [Text.dropReturn]
  · have hlast : (decodeFrom none (before ++ [b])).getLast? ≠ some '\r' := by
      intro hlast
      have hreturn := eq_of_getLast?_decodeFrom isState_none hlast (by decide) (by decide)
      exact hb (UInt8.toNat_inj.mp hreturn)
    simp [Text.dropReturn, dropReturn, hb, hlast]

theorem linesOfOctets_eq_linesOfText (octets : List UInt8) :
    linesOfOctets octets = linesOfText (decode octets) := by
  have hlast : (((octets.splitOn lineFeed).map (decodeFrom none)).getLast?.getD []) =
      decodeFrom none ((octets.splitOn lineFeed).getLast?.getD []) := by
    rw [List.getLast?_map]
    cases (octets.splitOn lineFeed).getLast? <;> rfl
  simp only [linesOfOctets, linesOfText, decode, String.toList_ofList, splitOn_decodeFrom, hlast,
    ← List.map_dropLast, List.map_map, Function.comp_def, dropReturn_decodeFrom]

/-- However a stream is cut into pieces, a buffer reads from it the lines of the whole stream, and
is empty then. They are those of the text that the stream stands for, so that no character and no
line ending is lost where the stream is cut. -/
theorem streamed_lines (pieces : List (List UInt8)) :
    empty.readAll pieces = (linesOfOctets pieces.flatten, empty) ∧
    linesOfOctets pieces.flatten = linesOfText (decode pieces.flatten) ∧
    ∀ text : String, encode text = pieces.flatten →
      empty.readAll pieces = (linesOfText text, empty) := by
  have hread : empty.readAll pieces = (linesOfOctets pieces.flatten, empty) :=
    readAll_eq pieces List.not_mem_nil
  have hlines := linesOfOctets_eq_linesOfText pieces.flatten
  refine ⟨hread, hlines, fun text htext => ?_⟩
  rw [hread, hlines, ← htext, decode_encode]

/-- Both a character and a line ending are cut through. -/
theorem streamed_lines_cut_through :
    encode "é\r\nz" = [[0xC3], [0xA9, 13], [10, 122]].flatten ∧
    empty.readAll [[0xC3], [0xA9, 13], [10, 122]] = (["é", "z"], empty) := by
  have htext : encode "é\r\nz" = [[0xC3], [0xA9, 13], [10, 122]].flatten := by decide +kernel
  have hlines : linesOfText "é\r\nz" = ["é", "z"] := by decide +kernel
  refine ⟨htext, ?_⟩
  rw [(streamed_lines [[0xC3], [0xA9, 13], [10, 122]]).2.2 "é\r\nz" htext, hlines]

end Runbook.LineBuffer
