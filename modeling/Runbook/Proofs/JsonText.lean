import Mathlib.Data.List.TakeWhile
import Runbook.Json.Reader
import Runbook.Proofs.JsonTokens

/-!
JSON texts and documents. The reader, given the tokens of a document where a value may stand, puts
that document there, whatever lists and objects are open around it. Main statement: a document
without real numbers is what its pretty text is read as.
-/

namespace Runbook.Json

/-! ### Numerals -/

theorem exponentPart_nil : exponentPart [] = some none := rfl

theorem takeWhile_toDigits (n : Nat) :
    (Nat.toDigits 10 n).takeWhile Char.isDigit = Nat.toDigits 10 n :=
  List.takeWhile_eq_self_iff.mpr fun _ => isDigit_of_mem_toDigits

theorem dropWhile_toDigits (n : Nat) : (Nat.toDigits 10 n).dropWhile Char.isDigit = [] :=
  List.dropWhile_eq_nil_iff.mpr fun _ => isDigit_of_mem_toDigits

theorem not_leadingZero (n : Nat) : ¬ ((Nat.toDigits 10 n).head? = some '0' ∧
    1 < (Nat.toDigits 10 n).length) := by
  rintro ⟨hhead, hlen⟩
  rcases Nat.eq_zero_or_pos n with rfl | hpos
  · simp at hlen
  · exact head?_toDigits hpos hhead

theorem numeralParts?_negative (n : Nat) : numeralParts? ('-' :: Nat.toDigits 10 n) =
    some ⟨true, Nat.toDigits 10 n, none, none⟩ := by
  have hzero := not_leadingZero n
  simp only [numeralParts?, takeWhile_toDigits, dropWhile_toDigits, fractionPart,
    exponentPart_nil, Option.bind_eq_bind, Option.bind_some]
  rw [if_neg (by simpa [Nat.toDigits_ne_nil] using hzero)]
  rfl

theorem numeralParts?_natural (n : Nat) : numeralParts? (Nat.toDigits 10 n) =
    some ⟨false, Nat.toDigits 10 n, none, none⟩ := by
  have hzero := not_leadingZero n
  unfold numeralParts?
  split
  next negative digits heq =>
    obtain ⟨rfl, rfl⟩ : negative = false ∧ digits = Nat.toDigits 10 n := by
      split at heq
      next r hr =>
        have hminus : '-' ∈ Nat.toDigits 10 n := hr ▸ List.mem_cons_self
        exact absurd (isDigit_of_mem_toDigits hminus) (by decide)
      next => simpa [eq_comm] using heq
    simp only [takeWhile_toDigits, dropWhile_toDigits, fractionPart, exponentPart_nil,
      Option.bind_eq_bind, Option.bind_some]
    rw [if_neg (by simpa [Nat.toDigits_ne_nil] using hzero)]
    rfl

theorem number?_integer {k : Int} (h : Document.holdsInteger k = true) :
    number? (toString k).toList = some (.integer k) := by
  obtain ⟨hlow, hhigh⟩ := Bool.and_eq_true_iff.mp h
  have hleast : -(Word.count 63 : Int) ≤ k := of_decide_eq_true hlow
  have hgreatest : k ≤ (greatestWord : Int) := of_decide_eq_true hhigh
  rw [toList_toString_int]
  split
  next hneg =>
    have hpos : 0 < k.natAbs := by omega
    have hle : k.natAbs ≤ Word.count 63 := by omega
    simp [number?, numeralParts?_negative, hpos, hle, abs_of_neg hneg]
  next hnonneg =>
    have hle : k.natAbs ≤ greatestWord := by omega
    simp [number?, numeralParts?_natural, hle, abs_of_nonneg (not_lt.mp hnonneg)]

/-! ### The reader -/

namespace Reader

theorem run_cons {r : Reader} {t : Token} (next : Reader) (h : r.step t = some next)
    (rest : List Token) : r.run (t :: rest) = next.run rest := by
  rw [run, h, Option.bind_some]

theorem exists_tokensOf_eq_cons {n : Nat} {d : Document} (h : IsPlain n d) :
    ∃ t ts, tokensOf d = t :: ts ∧ t ≠ .closeList := by
  cases h <;> simp [tokensOf]

theorem run_firstItem {n : Nat} {d : Document} (h : IsPlain n d) (frames : List Frame)
    (rest : List Token) : run ⟨.firstItem, frames⟩ (tokensOf d ++ rest) =
      run ⟨.value, frames⟩ (tokensOf d ++ rest) := by
  obtain ⟨t, ts, hd, ht⟩ := exists_tokensOf_eq_cons h
  rw [hd, List.cons_append, run, run]
  simp [step, ht]

/-- Where a value may come next, a document is read in front of whatever comes after it. -/
def Reads (d : Document) (frames : List Frame) : Prop :=
  ∀ mode, mode = .value ∨ mode = .firstItem → ∀ rest,
    run ⟨mode, frames⟩ (tokensOf d ++ rest) = run (put d frames) rest

theorem reads_of_value {n : Nat} {d : Document} {frames : List Frame} (h : IsPlain n d)
    (hvalue : ∀ rest, run ⟨.value, frames⟩ (tokensOf d ++ rest) = run (put d frames) rest) :
    Reads d frames := by
  rintro mode (rfl | rfl) rest
  · exact hvalue rest
  · rw [run_firstItem h, hvalue]

theorem run_items {d : Document} {items acc : List Document} {frames : List Frame} {mode : Mode}
    (hmode : mode = .value ∨ mode = .firstItem)
    (h : ∀ e ∈ d :: items, ∀ acc, Reads e (.list acc :: frames)) (rest : List Token) :
    run ⟨mode, .list acc :: frames⟩
        ([Token.comma].intercalate (itemTokens (d :: items)) ++ .closeList :: rest) =
      run (put (.list (acc.reverse ++ d :: items)) frames) rest := by
  induction items generalizing d acc mode with
  | nil =>
    rw [itemTokens, itemTokens, List.intercalate_singleton, h d List.mem_cons_self acc mode hmode,
      put, run_cons (put (.list (acc.reverse ++ [d])) frames)]
    simp [step, close]
  | cons e items ih =>
    rw [itemTokens, itemTokens, List.intercalate_cons_cons, ← itemTokens, List.append_assoc,
      List.append_assoc, h d List.mem_cons_self acc mode hmode, put, List.singleton_append,
      run_cons ⟨.value, .list (d :: acc) :: frames⟩ (by simp [step]),
      ih (.inl rfl) fun e he => h e (List.mem_cons_of_mem d he)]
    simp

theorem run_fields {name last : String} {d : Document} {fields acc : List (String × Document)}
    {frames : List Frame} {mode : Mode} (hmode : mode = .name ∨ mode = .firstName)
    (h : ∀ f ∈ (name, d) :: fields, ∀ acc, Reads f.2 (.object acc f.1 :: frames))
    (rest : List Token) :
    run ⟨mode, .object acc last :: frames⟩
        ([Token.comma].intercalate (fieldTokens ((name, d) :: fields)) ++ .closeObject :: rest) =
      run (put (.object (acc.reverse ++ (name, d) :: fields)) frames) rest := by
  have hname : step ⟨mode, .object acc last :: frames⟩ (.text name) =
      some ⟨.colon, .object acc name :: frames⟩ := by
    rcases hmode with rfl | rfl <;> simp [step, Reader.name]
  have hcolon : step ⟨.colon, .object acc name :: frames⟩ .colon =
      some ⟨.value, .object acc name :: frames⟩ := by simp [step]
  induction fields generalizing name last d acc mode with
  | nil =>
    rw [fieldTokens, fieldTokens, List.intercalate_singleton, List.cons_append, List.cons_append,
      run_cons _ hname, run_cons _ hcolon, h (name, d) List.mem_cons_self acc _ (.inl rfl), put,
      run_cons (put (.object (acc.reverse ++ [(name, d)])) frames)]
    simp [step, close]
  | cons f fields ih =>
    obtain ⟨next, e⟩ := f
    rw [fieldTokens, fieldTokens, List.intercalate_cons_cons, ← fieldTokens, List.append_assoc,
      List.append_assoc, List.cons_append, List.cons_append, run_cons _ hname, run_cons _ hcolon,
      h (name, d) List.mem_cons_self acc _ (.inl rfl), put, List.singleton_append,
      run_cons ⟨.name, .object ((name, d) :: acc) name :: frames⟩ (by simp [step]),
      ih (.inl rfl) (fun f hf => h f (List.mem_cons_of_mem _ hf)) (by simp [step, Reader.name])
        (by simp [step])]
    simp

/-- Where a value may stand, a document is read that nests no deeper than is left. -/
theorem reads_of_isPlain {n : Nat} {d : Document} (h : IsPlain n d) (frames : List Frame)
    (hdepth : frames.length + n ≤ nestingLimit) : Reads d frames := by
  refine reads_of_value h fun rest => ?_
  induction h generalizing frames rest with
  | null => exact run_cons _ rfl rest
  | bool b => exact run_cons _ rfl rest
  | integer h =>
    rw [tokensOf, List.singleton_append, run_cons]
    simp only [step, value, number?_integer h, Option.map_some]
  | text s =>
    rw [tokensOf]
    exact run_cons _ rfl rest
  | @list n items h ih =>
    have henter : step ⟨.value, frames⟩ .openList = some ⟨.firstItem, .list [] :: frames⟩ := by
      simp only [step, value, enter]
      rw [if_pos (by omega)]
    rw [tokensOf, List.cons_append, run_cons _ henter, List.append_assoc, List.singleton_append]
    cases items with
    | nil =>
      rw [itemTokens, List.intercalate_nil, List.nil_append, run_cons _ rfl]
      rfl
    | cons e items =>
      exact run_items (.inr rfl) (fun d hd acc => reads_of_value (h d hd) fun rest =>
        ih d hd _ (by rw [List.length_cons]; omega) rest) rest
  | @object n fields h ih =>
    have henter : step ⟨.value, frames⟩ .openObject =
        some ⟨.firstName, .object [] "" :: frames⟩ := by
      simp only [step, value, enter]
      rw [if_pos (by omega)]
    rw [tokensOf, List.cons_append, run_cons _ henter, List.append_assoc, List.singleton_append]
    cases fields with
    | nil =>
      rw [fieldTokens, List.intercalate_nil, List.nil_append, run_cons _ rfl]
      rfl
    | cons f fields =>
      exact run_fields (.inr rfl) (fun f hf acc => reads_of_value (h f hf) fun rest =>
        ih f hf _ (by rw [List.length_cons]; omega) rest) rest

end Reader

/-- A document without real numbers that nests no deeper than the reader goes is what its pretty
text is read as. -/
theorem read?_pretty {n : Nat} {d : Document} (h : IsPlain n d) (hn : n ≤ Reader.nestingLimit) :
    read? (pretty d) = some d := by
  have hrun := Reader.reads_of_isPlain h [] (by simpa using hn) _ (.inl rfl) []
  rw [List.append_nil] at hrun
  rw [read?, tokens?_pretty h, Option.bind_eq_bind, Option.bind_some, Reader.start, hrun]
  rfl

end Runbook.Json
