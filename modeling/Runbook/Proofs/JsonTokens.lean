import Runbook.Json.Token
import Runbook.Json.Writer
import Runbook.Proofs.DecimalText
import Mathlib.Data.List.Forall2

/-!
The tokens of written JSON texts: of strings with what is escaped in them, of words and numerals,
and of lines between brackets. Main statement: the pretty text of a document has the tokens that
the document is made of.
-/

namespace Runbook.Json

def Ends (rest : List Char) : Prop := ∀ c ∈ rest.head?, c.isAlpha = false ∧ isNumeral c = false

/-- A text that stands for tokens, whatever comes after it. -/
def Spells (s : List Char) (tokens : List Token) : Prop :=
  ∀ rest, Ends rest → tokensFrom .nothing (s ++ rest) =
    (tokensFrom .nothing rest).map (tokens ++ ·)

theorem tokensFrom_cons {inside next : Inside} {c : Char} {tokens : List Token}
    (h : step inside c = some (tokens, next)) (rest : List Char) :
    tokensFrom inside (c :: rest) = (tokensFrom next rest).map (tokens ++ ·) := by
  simp only [tokensFrom, h, Option.bind_eq_bind, Option.bind_some]
  cases tokensFrom next rest <;> rfl

theorem tokensFrom_silent {inside : Inside} {c : Char} (next : Inside)
    (h : step inside c = some ([], next)) (rest : List Char) :
    tokensFrom inside (c :: rest) = tokensFrom next rest := by
  rw [tokensFrom_cons h]
  simp

theorem tokensFrom_mark {c : Char} {token : Token} (h : start c = some ([token], .nothing))
    (rest : List Char) :
    tokensFrom .nothing (c :: rest) = (tokensFrom .nothing rest).map (token :: ·) := by
  rw [tokensFrom_cons (show step .nothing c = _ from h)]
  rfl

theorem tokensFrom_space {c : Char} (h : isSpace c = true) (rest : List Char) :
    tokensFrom .nothing (c :: rest) = tokensFrom .nothing rest :=
  tokensFrom_silent _ (by simp [step, start, h]) rest

theorem tokensFrom_spaces {spaces : List Char} (h : ∀ c ∈ spaces, isSpace c = true)
    (rest : List Char) : tokensFrom .nothing (spaces ++ rest) = tokensFrom .nothing rest := by
  induction spaces with
  | nil => rfl
  | cons c spaces ih =>
    rw [List.cons_append, tokensFrom_space (h c List.mem_cons_self)]
    exact ih fun d hd => h d (List.mem_cons_of_mem c hd)

theorem ends_cons {c : Char} (hc : c.isAlpha = false ∧ isNumeral c = false) (rest : List Char) :
    Ends (c :: rest) := by
  intro d hd
  rw [← Option.some.inj hd]
  exact hc

namespace Spells

variable {s t : List Char} {tokens others : List Token}

theorem append (hs : Spells s tokens) (ht : Spells t others) (hends : ∀ rest, Ends (t ++ rest)) :
    Spells (s ++ t) (tokens ++ others) := by
  intro rest hrest
  rw [List.append_assoc, hs _ (hends rest), ht rest hrest, Option.map_map]
  congr 1
  funext others
  simp

theorem mark {c : Char} {token : Token} (hc : start c = some ([token], .nothing))
    (hs : Spells s tokens) : Spells (c :: s) (token :: tokens) := by
  intro rest hrest
  rw [List.cons_append, tokensFrom_mark hc, hs rest hrest, Option.map_map]
  rfl

theorem spaces (spaces : List Char) (hspaces : ∀ c ∈ spaces, isSpace c = true)
    (hs : Spells s tokens) : Spells (spaces ++ s) tokens := by
  intro rest hrest
  rw [List.append_assoc, tokensFrom_spaces hspaces, hs rest hrest]

theorem nil : Spells [] [] := by
  intro rest _
  simp

end Spells

/-! ### Strings -/

theorem hexDigit?_hexDigit {n : Nat} (h : n < 16) : hexDigit? (hexDigit n) = some n := by
  interval_cases n <;> rfl

theorem hexValue?_control {n : Nat} (h : n < 32) :
    hexValue? ['0', '0', hexDigit (n / 16), hexDigit (n % 16)] = some n := by
  interval_cases n <;> rfl

/-- A control character is read back from its number in hexadecimal digits. -/
theorem tokensFrom_control {c : Char} (h : c.toNat < 32) (read rest : List Char) :
    tokensFrom (.text read) (['\\', 'u', '0', '0', hexDigit (c.toNat / 16),
      hexDigit (c.toNat % 16)] ++ rest) = tokensFrom (.text (c :: read)) rest := by
  have hhigh : (hexDigit? (hexDigit (c.toNat / 16))).isSome = true := by
    rw [hexDigit?_hexDigit (by omega), Option.isSome_some]
  simp only [List.cons_append, List.nil_append]
  rw [tokensFrom_silent (.escape read) rfl,
    tokensFrom_silent (.unicode read none []) rfl,
    tokensFrom_silent (.unicode read none ['0']) rfl,
    tokensFrom_silent (.unicode read none ['0', '0']) rfl,
    tokensFrom_silent (.unicode read none ['0', '0', hexDigit (c.toNat / 16)])
      (by simp [step, hhigh])]
  refine tokensFrom_silent _ ?_ rest
  have hsurrogate : ¬ (0xD800 ≤ c.toNat ∧ c.toNat ≤ 0xDBFF) := by omega
  have hlow : ¬ (0xDC00 ≤ c.toNat ∧ c.toNat ≤ 0xDFFF) := by omega
  simp [step, hexValue?_control h, hsurrogate, hlow]

theorem tokensFrom_escape (c : Char) (read rest : List Char) :
    tokensFrom (.text read) (escape c ++ rest) = tokensFrom (.text (c :: read)) rest := by
  have hpair : ∀ d, escaped? d = some c → d ≠ 'u' →
      tokensFrom (.text read) (['\\', d] ++ rest) = tokensFrom (.text (c :: read)) rest := by
    intro d hd hu
    rw [List.cons_append, List.singleton_append, tokensFrom_silent (.escape read) rfl]
    exact tokensFrom_silent _ (by simp [step, hu, hd]) rest
  unfold escape
  split_ifs with hquote hslash hnewline hreturn htab hback hfeed hcontrol
  · exact hpair '"' (by simp_all [escaped?]) (by decide)
  · exact hpair '\\' (by simp_all [escaped?]) (by decide)
  · exact hpair 'n' (by simp_all [escaped?]) (by decide)
  · exact hpair 'r' (by simp_all [escaped?]) (by decide)
  · exact hpair 't' (by simp_all [escaped?]) (by decide)
  · exact hpair 'b' (by simp_all [escaped?]) (by decide)
  · exact hpair 'f' (by simp_all [escaped?]) (by decide)
  · exact tokensFrom_control hcontrol read rest
  · exact tokensFrom_silent _ (by simp [step, hquote, hslash, hcontrol]) rest

theorem tokensFrom_escaped (s read rest : List Char) :
    tokensFrom (.text read) (s.flatMap escape ++ '"' :: rest) =
      (tokensFrom .nothing rest).map (.text (String.ofList (read.reverse ++ s)) :: ·) := by
  induction s generalizing read with
  | nil =>
    rw [List.flatMap_nil, List.nil_append, tokensFrom_cons rfl, List.append_nil]
    rfl
  | cons c s ih =>
    rw [List.flatMap_cons, List.append_assoc, tokensFrom_escape, ih]
    simp

theorem spells_quoted (s : String) : Spells (quoted s).toList [.text s] := by
  intro rest _
  rw [quoted, String.toList_ofList, List.cons_append, List.cons_append, List.append_assoc,
    List.singleton_append, tokensFrom_silent (.text []) rfl, tokensFrom_escaped]
  simp

/-! ### Words and numerals -/

/-- A word that is complete where something else comes. -/
theorem tokensFrom_word {word read rest : List Char} {token : Token}
    (hword : ∀ c ∈ word, c.isAlpha = true) (h : wordToken? (read.reverse ++ word) = some token)
    (hrest : Ends rest) :
    tokensFrom (.word read) (word ++ rest) = (tokensFrom .nothing rest).map (token :: ·) := by
  induction word generalizing read with
  | nil =>
    rw [List.append_nil] at h
    cases rest with
    | nil => simp [tokensFrom, finish, h]
    | cons c rest =>
      have hc : c.isAlpha = false := (hrest c rfl).1
      simp only [List.nil_append, tokensFrom, step, hc, h, Bool.false_eq_true, ↓reduceIte,
        Option.bind_eq_bind, Option.bind_some, Option.pure_def]
      cases start c with
      | none => rfl
      | some r => cases tokensFrom r.2 rest <;> simp [*]
  | cons c word ih =>
    have hc : c.isAlpha = true := hword c List.mem_cons_self
    rw [List.cons_append, tokensFrom_silent (.word (c :: read)) (by simp [step, hc])]
    exact ih (fun d hd => hword d (List.mem_cons_of_mem c hd)) (by simpa using h)

theorem spells_word (c : Char) (word : List Char) {token : Token}
    (hc : start c = some ([], .word [c])) (hword : word.all Char.isAlpha = true)
    (h : wordToken? (c :: word) = some token) : Spells (c :: word) [token] := by
  intro rest hrest
  have htoken : wordToken? ([c].reverse ++ word) = some token := by simpa using h
  rw [List.cons_append, tokensFrom_silent _ (show step .nothing c = _ from hc),
    tokensFrom_word (List.all_eq_true.mp hword) htoken hrest]
  rfl

/-- A numeral that is complete where something else comes. -/
theorem tokensFrom_numeral {numeral read rest : List Char}
    (hnumeral : ∀ c ∈ numeral, isNumeral c = true) (hrest : Ends rest) :
    tokensFrom (.numeral read) (numeral ++ rest) =
      (tokensFrom .nothing rest).map (.number (read.reverse ++ numeral) :: ·) := by
  induction numeral generalizing read with
  | nil =>
    cases rest with
    | nil => simp [tokensFrom, finish]
    | cons c rest =>
      have hc : isNumeral c = false := (hrest c rfl).2
      simp only [List.nil_append, List.append_nil, tokensFrom, step, hc, Bool.false_eq_true,
        ↓reduceIte, Option.bind_eq_bind]
      cases start c with
      | none => rfl
      | some r => cases tokensFrom r.2 rest <;> simp [*]
  | cons c numeral ih =>
    have hc : isNumeral c = true := hnumeral c List.mem_cons_self
    rw [List.cons_append, tokensFrom_silent (.numeral (c :: read)) (by simp [step, hc]),
      ih fun d hd => hnumeral d (List.mem_cons_of_mem c hd)]
    simp

theorem start_of_isDigit {c : Char} (h : c.isDigit = true) : start c = some ([], .numeral [c]) := by
  simp only [Char.isDigit, ge_iff_le, Bool.and_eq_true, decide_eq_true_eq,
    UInt32.le_iff_toNat_le] at h
  have hlow : 48 ≤ c.toNat := h.1
  have hhigh : c.toNat ≤ 57 := h.2
  rw [← Char.ofNat_toNat c]
  interval_cases c.toNat <;> rfl

theorem isNumeral_of_mem_toDigits {n : Nat} {c : Char} (h : c ∈ Nat.toDigits 10 n) :
    isNumeral c = true := by
  simp [isNumeral, isDigit_of_mem_toDigits h]

theorem spells_toDigits (n : Nat) : Spells (Nat.toDigits 10 n) [.number (Nat.toDigits 10 n)] := by
  intro rest hrest
  have hnumeral : ∀ c ∈ Nat.toDigits 10 n, isNumeral c = true := fun c =>
    isNumeral_of_mem_toDigits
  cases h : Nat.toDigits 10 n with
  | nil => exact absurd h Nat.toDigits_ne_nil
  | cons c s =>
    rw [h] at hnumeral
    have hc : c.isDigit = true := isDigit_of_mem_toDigits (h ▸ List.mem_cons_self)
    rw [List.cons_append, tokensFrom_silent _ (show step .nothing c = _ from start_of_isDigit hc),
      tokensFrom_numeral (fun d hd => hnumeral d (List.mem_cons_of_mem c hd)) hrest]
    rfl

theorem toList_toString_int (k : Int) : (toString k).toList =
    if k < 0 then '-' :: Nat.toDigits 10 k.natAbs else Nat.toDigits 10 k.natAbs := by
  cases k with
  | ofNat n => simp [toString, Int.repr]
  | negSucc n => simp [toString, Int.repr]

theorem spells_integer (k : Int) : Spells (toString k).toList [.number (toString k).toList] := by
  rw [toList_toString_int]
  split
  · intro rest hrest
    rw [List.cons_append, tokensFrom_silent (.numeral ['-']) rfl,
      tokensFrom_numeral (fun c => isNumeral_of_mem_toDigits) hrest]
    rfl
  · exact spells_toDigits k.natAbs

/-! ### Documents -/

mutual

def tokensOf : Document → List Token
  | .null => [.null]
  | .bool b => [.bool b]
  | .integer n => [.number (toString n).toList]
  | .real x => [.number (realText x).toList]
  | .text s => [.text s]
  | .list items => .openList :: ([Token.comma].intercalate (itemTokens items) ++ [.closeList])
  | .object fields =>
    .openObject :: ([Token.comma].intercalate (fieldTokens fields) ++ [.closeObject])

def itemTokens : List Document → List (List Token)
  | [] => []
  | d :: rest => tokensOf d :: itemTokens rest

def fieldTokens : List (String × Document) → List (List Token)
  | [] => []
  | (name, d) :: rest => (.text name :: .colon :: tokensOf d) :: fieldTokens rest

end

theorem spells_lines {indent : String} (hindent : ∀ c ∈ indent.toList, isSpace c = true)
    {lines : List String} {tokens : List (List Token)}
    (h : List.Forall₂ (fun line ts => Spells line.toList ts) lines tokens) :
    Spells (",".intercalate (lines.map (indent ++ ·))).toList
      ([Token.comma].intercalate tokens) := by
  induction h with
  | nil => exact Spells.nil
  | @cons line ts lines tokens hline htail ih =>
    have hfirst : Spells (indent ++ line).toList ts := by
      rw [String.toList_append]
      exact hline.spaces _ hindent
    cases htail with
    | nil =>
      rw [List.map_singleton, String.intercalate_singleton, List.intercalate_singleton]
      exact hfirst
    | cons hnext htail =>
      rw [List.map_cons, List.map_cons, String.intercalate_cons_cons, List.intercalate_cons_cons,
        String.toList_append, String.toList_append, List.append_assoc, List.append_assoc]
      exact hfirst.append (Spells.mark rfl ih) fun rest => ends_cons (by decide) _

theorem spells_block {before after : String} {b a : Char} {opening closing : Token}
    (hb : before.toList = [b]) (ha : after.toList = [a])
    (hopening : start b = some ([opening], .nothing))
    (hclosing : start a = some ([closing], .nothing)) (depth : Nat)
    {lines : List String} {tokens : List (List Token)}
    (h : List.Forall₂ (fun line ts => Spells line.toList ts) lines tokens) :
    Spells (block before lines after depth).toList
      (opening :: ([Token.comma].intercalate tokens ++ [closing])) := by
  have hlast : Spells [a] [closing] := Spells.nil.mark hclosing
  cases h with
  | nil =>
    simp only [block, List.isEmpty_nil, ↓reduceIte, String.toList_append, hb, ha]
    exact hlast.mark hopening
  | @cons line ts lines tokens hline htail =>
    obtain ⟨margin, hmargin⟩ : ∃ margin, margin = "\n".pushn ' ' (2 * depth) := ⟨_, rfl⟩
    have hspaces : margin.toList = '\n' :: List.replicate (2 * depth) ' ' := by
      rw [hmargin, toList_pushn]
      rfl
    have hmarginSpaces : ∀ c ∈ margin.toList, isSpace c = true := by
      intro c hc
      rw [hspaces, List.mem_cons, List.mem_replicate] at hc
      rcases hc with rfl | ⟨-, rfl⟩ <;> decide
    have hindent : ∀ c ∈ (margin ++ "  ").toList, isSpace c = true := by
      intro c hc
      rw [String.toList_append, List.mem_append] at hc
      rcases hc with hc | hc
      · exact hmarginSpaces c hc
      · obtain rfl : c = ' ' := by simpa using hc
        rfl
    have hlines := spells_lines hindent (List.Forall₂.cons hline htail)
    have hend : Spells (margin.toList ++ [a]) [closing] := hlast.spaces _ hmarginSpaces
    simp only [block, List.isEmpty_cons, Bool.false_eq_true, ↓reduceIte, String.toList_append,
      hb, ha, List.append_assoc, ← hmargin]
    refine Spells.mark hopening (hlines.append hend fun rest => ?_)
    rw [hspaces]
    exact ends_cons (by decide) _

/-- A document without real numbers, whose lists and objects nest at most so deep. -/
inductive IsPlain : Nat → Document → Prop
  | null {n : Nat} : IsPlain n .null
  | bool {n : Nat} (b : Bool) : IsPlain n (.bool b)
  | integer {n : Nat} {k : Int} (h : Document.holdsInteger k = true) : IsPlain n (.integer k)
  | text {n : Nat} (s : String) : IsPlain n (.text s)
  | list {n : Nat} {items : List Document} (h : ∀ d ∈ items, IsPlain n d) :
    IsPlain (n + 1) (.list items)
  | object {n : Nat} {fields : List (String × Document)} (h : ∀ f ∈ fields, IsPlain n f.2) :
    IsPlain (n + 1) (.object fields)

theorem forall₂_prettyItems {items : List Document} {depth : Nat}
    (h : ∀ d ∈ items, Spells (prettyAt depth d).toList (tokensOf d)) :
    List.Forall₂ (fun line ts => Spells line.toList ts) (prettyItems depth items)
      (itemTokens items) := by
  induction items with
  | nil => exact .nil
  | cons d items ih =>
    exact .cons (h d List.mem_cons_self) (ih fun e he => h e (List.mem_cons_of_mem d he))

theorem forall₂_prettyFields {fields : List (String × Document)} {depth : Nat}
    (h : ∀ f ∈ fields, Spells (prettyAt depth f.2).toList (tokensOf f.2)) :
    List.Forall₂ (fun line ts => Spells line.toList ts) (prettyFields depth fields)
      (fieldTokens fields) := by
  induction fields with
  | nil => exact .nil
  | cons f fields ih =>
    obtain ⟨name, d⟩ := f
    refine .cons ?_ (ih fun e he => h e (List.mem_cons_of_mem _ he))
    have hvalue : Spells (' ' :: (prettyAt depth d).toList) (tokensOf d) :=
      (h (name, d) List.mem_cons_self).spaces [' '] (List.forall_mem_singleton.mpr rfl)
    rw [String.toList_append, String.toList_append, List.append_assoc]
    exact (spells_quoted name).append (hvalue.mark rfl) fun rest => ends_cons (by decide) _

theorem spells_prettyAt {n : Nat} {d : Document} (h : IsPlain n d) (depth : Nat) :
    Spells (prettyAt depth d).toList (tokensOf d) := by
  induction h generalizing depth with
  | null =>
    rw [prettyAt, tokensOf]
    exact spells_word 'n' ['u', 'l', 'l'] rfl rfl rfl
  | bool b =>
    rw [prettyAt, tokensOf]
    cases b with
    | true => exact spells_word 't' ['r', 'u', 'e'] rfl rfl rfl
    | false => exact spells_word 'f' ['a', 'l', 's', 'e'] rfl rfl rfl
  | @integer _ k h =>
    rw [prettyAt, tokensOf]
    exact spells_integer k
  | text s =>
    rw [prettyAt, tokensOf]
    exact spells_quoted s
  | list h ih =>
    rw [prettyAt, tokensOf]
    exact spells_block (b := '[') (a := ']') rfl rfl rfl rfl depth
      (forall₂_prettyItems fun d hd => ih d hd _)
  | object h ih =>
    rw [prettyAt, tokensOf]
    exact spells_block (b := '\x7b') (a := '\x7d') rfl rfl rfl rfl depth
      (forall₂_prettyFields fun f hf => ih f hf _)

theorem tokens?_pretty {n : Nat} {d : Document} (h : IsPlain n d) :
    tokens? (pretty d).toList = some (tokensOf d) := by
  have htext := spells_prettyAt h 0 [] (by simp [Ends])
  rw [List.append_nil] at htext
  rw [tokens?, pretty, htext]
  simp [tokensFrom, finish]

end Runbook.Json
