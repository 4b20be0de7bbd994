import Mathlib.Tactic.Tauto
import Runbook.Cron.Reader
import Runbook.Proofs.DecimalText

/-!
The grammar of the fields of cron expressions. Main statements: what a field reads of a text without
blanks is spelled by the grammar; what is spelled is read in front of every rest that does not go on
with it; and so the fields of an expression are read one after the other.
-/

namespace Runbook.Cron

/-! ### The grammar -/

structure IsNumeral (n : Nat) (s : List Char) : Prop where
  ne_nil : s ≠ []
  digits : ∀ c ∈ s, c.isDigit = true
  value : Numeral.digitsValue 0 s = n

structure IsName (name : String) (s : List Char) : Prop where
  ne_nil : s ≠ []
  letters : ∀ c ∈ s, c.isAlpha = true
  value : String.ofList s = name

inductive Span.Spelled (f : Field) : Span → List Char → Prop
  | all : Spelled f .all ['*']
  | any (h : f.takesAny = true) : Spelled f .all ['?']
  | one {n s} (h : IsNumeral n s) : Spelled f (.one n) s
  | between {a b s t} (ha : IsNumeral a s) (hb : IsNumeral b t) :
    Spelled f (.between a b) (s ++ '-' :: t)
  | betweenNames {a b s t} (ha : IsName a s) (hb : IsName b t) :
    Spelled f (.betweenNames a b) (s ++ '-' :: t)

inductive Item.Spelled (f : Field) : Item → List Char → Prop
  | span {span s} (h : Span.Spelled f span s) : Spelled f (.span span) s
  | steps {span n s t} (h : Span.Spelled f span s) (hn : IsNumeral n t) :
    Spelled f (.steps span n) (s ++ '/' :: t)
  | name {name s} (h : IsName name s) : Spelled f (.name name) s

/-- Items that stand each behind a comma. -/
inductive Listed (f : Field) : List Item → List Char → Prop
  | nil : Listed f [] []
  | cons {item items s t} (h : Item.Spelled f item s) (ht : Listed f items t) :
    Listed f (item :: items) (',' :: (s ++ t))

def Field.Spelled (f : Field) (items : List Item) (s : List Char) : Prop :=
  Listed f items (',' :: s)

theorem Listed.append {f : Field} {items others : List Item} {s t : List Char}
    (h : Listed f items s) (ht : Listed f others t) : Listed f (items ++ others) (s ++ t) := by
  induction h with
  | nil => exact ht
  | cons hitem _ ih =>
    rw [List.cons_append, List.cons_append, List.append_assoc]
    exact .cons hitem ih

theorem Item.Spelled.listed {f : Field} {item : Item} {s : List Char} (h : item.Spelled f s) :
    Listed f [item] (',' :: s) := by
  have hlisted := Listed.cons h .nil
  rwa [List.append_nil] at hlisted

/-! ### The first character -/

/-- What no blank is and no mark that goes on with an item or a list. -/
def IsOpening (c : Char) : Prop := c ∉ [' ', ',', '-', '/']

instance : DecidablePred IsOpening := fun c =>
  inferInstanceAs (Decidable (c ∉ [' ', ',', '-', '/']))

theorem isOpening_of_accepted {p : Char → Bool}
    (hmarks : [' ', ',', '-', '/'].all (fun d => !p d) = true) {c : Char} (h : p c = true) :
    IsOpening c := by
  intro hc
  have hrefused := List.all_eq_true.mp hmarks c hc
  rw [h] at hrefused
  exact Bool.false_ne_true hrefused

theorem isOpening_of_isDigit {c : Char} (h : c.isDigit = true) : IsOpening c :=
  isOpening_of_accepted (p := Char.isDigit) (by decide) h

theorem isOpening_of_isAlpha {c : Char} (h : c.isAlpha = true) : IsOpening c :=
  isOpening_of_accepted (p := Char.isAlpha) (by decide) h

theorem isDigit_of_isAlpha {c : Char} (h : c.isAlpha = true) : c.isDigit = false := by
  have hletter : 65 ≤ c.toNat := by
    rcases Bool.or_eq_true_iff.mp h with hupper | hlower
    · exact (of_decide_eq_true hupper).1
    · exact Nat.le_trans (by decide) (of_decide_eq_true (Bool.and_eq_true_iff.mp hlower).1)
  rw [Bool.eq_false_iff]
  intro hdigit
  have hhigh : c.toNat ≤ 57 := (Char.isDigit_iff_toNat.mp hdigit).2
  omega

theorem IsNumeral.exists_cons {n : Nat} {s : List Char} (h : IsNumeral n s) :
    ∃ c t, s = c :: t ∧ c.isDigit = true := by
  obtain ⟨c, t, rfl⟩ := List.exists_cons_of_ne_nil h.ne_nil
  exact ⟨c, t, rfl, h.digits c List.mem_cons_self⟩

theorem IsName.exists_cons {name : String} {s : List Char} (h : IsName name s) :
    ∃ c t, s = c :: t ∧ c.isAlpha = true := by
  obtain ⟨c, t, rfl⟩ := List.exists_cons_of_ne_nil h.ne_nil
  exact ⟨c, t, rfl, h.letters c List.mem_cons_self⟩

theorem Span.Spelled.exists_cons {f : Field} {span : Span} {s : List Char} (h : span.Spelled f s) :
    ∃ c t, s = c :: t ∧ IsOpening c := by
  cases h with
  | all => exact ⟨'*', [], rfl, by decide⟩
  | any => exact ⟨'?', [], rfl, by decide⟩
  | one h | between h =>
    obtain ⟨c, t, rfl, hc⟩ := h.exists_cons
    exact ⟨c, _, rfl, isOpening_of_isDigit hc⟩
  | betweenNames h =>
    obtain ⟨c, t, rfl, hc⟩ := h.exists_cons
    exact ⟨c, _, rfl, isOpening_of_isAlpha hc⟩

theorem Item.Spelled.exists_cons {f : Field} {item : Item} {s : List Char} (h : item.Spelled f s) :
    ∃ c t, s = c :: t ∧ IsOpening c := by
  cases h with
  | span h => exact h.exists_cons
  | steps h =>
    obtain ⟨c, t, rfl, hc⟩ := h.exists_cons
    exact ⟨c, _, rfl, hc⟩
  | name h =>
    obtain ⟨c, t, rfl, hc⟩ := h.exists_cons
    exact ⟨c, t, rfl, isOpening_of_isAlpha hc⟩

theorem Field.Spelled.exists_cons {f : Field} {items : List Item} {s : List Char}
    (h : f.Spelled items s) : ∃ c t, s = c :: t ∧ IsOpening c := by
  cases h with
  | cons h =>
    obtain ⟨c, t, rfl, hc⟩ := h.exists_cons
    exact ⟨c, _, rfl, hc⟩

namespace Scan

/-! ### What is read in front of a rest -/

/-- The text behind the blanks that it starts with. -/
def unpadded (s : List Char) : List Char := s.dropWhile (· == ' ')

theorem unpadded_cons {c : Char} (h : c ≠ ' ') (s : List Char) : unpadded (c :: s) = c :: s := by
  simp [unpadded, h]

theorem unpadded_of_not_mem {s : List Char} (h : ' ' ∉ s) : unpadded s = s := by
  cases s with
  | nil => rfl
  | cons c s => exact unpadded_cons (List.ne_of_not_mem_cons h).symm s

/-- Nothing goes on with a stretch of values: no digit or letter is next, and no hyphen behind
blanks. -/
structure EndsSpan (rest : List Char) : Prop where
  digit : ∀ c ∈ rest.head?, c.isDigit = false
  letter : ∀ c ∈ rest.head?, c.isAlpha = false
  hyphen : ∀ c ∈ (unpadded rest).head?, c ≠ '-'

structure EndsItem (rest : List Char) : Prop extends EndsSpan rest where
  slash : ∀ c ∈ (unpadded rest).head?, c ≠ '/'

structure EndsField (rest : List Char) : Prop extends EndsItem rest where
  comma : ∀ c ∈ (unpadded rest).head?, c ≠ ','

theorem endsSpan_slash (t : List Char) : EndsSpan ('/' :: t) :=
  ⟨by simp, by simp, by simp [unpadded_cons]⟩

theorem endsItem_comma (t : List Char) : EndsItem (',' :: t) :=
  ⟨⟨by simp, by simp, by simp [unpadded_cons]⟩, by simp [unpadded_cons]⟩

theorem endsField_nil : EndsField [] :=
  ⟨⟨⟨by simp, by simp, by simp [unpadded]⟩, by simp [unpadded]⟩, by simp [unpadded]⟩

theorem unpadded_blank {c : Char} (h : IsOpening c) (t : List Char) :
    unpadded (' ' :: c :: t) = c :: t :=
  unpadded_cons (fun hc => h (hc ▸ List.mem_cons_self)) t

theorem endsField_blank {c : Char} (h : IsOpening c) (t : List Char) :
    EndsField (' ' :: c :: t) := by
  have hunpadded := unpadded_blank h t
  simp only [IsOpening, List.mem_cons, List.not_mem_nil, or_false, not_or] at h
  obtain ⟨hblank, hcomma, hhyphen, hslash⟩ := h
  refine ⟨⟨⟨by simp, by simp, ?_⟩, ?_⟩, ?_⟩ <;> simpa [hunpadded]

section Steps

variable {α β : Type} {scan : Scan α} {s rest : List Char} {a : α}

theorem bind_of_some (h : scan s = some (a, rest)) (next : α → Scan β) :
    (scan >>= next) s = next a rest := by
  change (scan s).bind (fun p => next p.1 p.2) = _
  rw [h]
  rfl

theorem bind_of_none (h : scan s = none) (next : α → Scan β) : (scan >>= next) s = none := by
  change (scan s).bind (fun p => next p.1 p.2) = _
  rw [h]
  rfl

theorem map_of_some (f : α → β) (h : scan s = some (a, rest)) :
    (f <$> scan) s = some (f a, rest) := by
  rw [map_eq_pure_bind, bind_of_some h]
  rfl

theorem map_of_none (f : α → β) (h : scan s = none) : (f <$> scan) s = none := by
  rw [map_eq_pure_bind, bind_of_none h]

theorem orElse_of_some (h : scan s = some (a, rest)) (other : Scan α) :
    (scan <|> other) s = some (a, rest) := by
  change (scan s).orElse (fun _ => other s) = _
  rw [h]
  rfl

theorem orElse_of_none (h : scan s = none) (other : Scan α) : (scan <|> other) s = other s := by
  change (scan s).orElse (fun _ => other s) = _
  rw [h]
  rfl

theorem padded_eq (scan : Scan α) (s : List Char) :
    padded scan s = (scan (unpadded s)).map fun (a, rest) => (a, unpadded rest) := by
  change (scan (unpadded s)).bind (fun p => some (p.1, unpadded p.2)) = _
  cases scan (unpadded s) <;> rfl

theorem mark_cons (c : Char) (s : List Char) : mark c (c :: s) = some ((), s) := by
  change (if c == c then set s else failure : Scan Unit) (c :: s) = _
  rw [beq_self_eq_true]
  rfl

theorem mark_eq_none {c : Char} {s : List Char} (h : ∀ d ∈ s.head?, d ≠ c) : mark c s = none := by
  cases s with
  | nil => rfl
  | cons d s =>
    change (if c == d then set s else failure : Scan Unit) (d :: s) = _
    rw [beq_false_of_ne (h d rfl).symm]
    rfl

theorem run_eq (accepts : Char → Bool) (s : List Char) : run accepts s =
    if (s.takeWhile accepts).isEmpty then none
    else some (s.takeWhile accepts, s.dropWhile accepts) := by
  change (if (s.takeWhile accepts).isEmpty then failure
    else do set (s.dropWhile accepts); return s.takeWhile accepts : Scan (List Char)) s = _
  split <;> rfl

end Steps

section Run

variable {accepts : Char → Bool} {found rest s : List Char}

theorem padded_run_append (hblank : accepts ' ' = false) (hne : found ≠ [])
    (hfound : ∀ c ∈ found, accepts c = true) (hrest : ∀ c ∈ rest.head?, accepts c = false) :
    padded (run accepts) (found ++ rest) = some (found, unpadded rest) := by
  have hunpadded : unpadded (found ++ rest) = found ++ rest := by
    obtain ⟨c, t, rfl⟩ := List.exists_cons_of_ne_nil hne
    refine unpadded_cons ?_ _
    rintro rfl
    exact Bool.false_ne_true (hblank.symm.trans (hfound ' ' List.mem_cons_self))
  have hstop : rest.takeWhile accepts = [] ∧ rest.dropWhile accepts = rest := by
    cases rest with
    | nil => exact ⟨rfl, rfl⟩
    | cons c rest => simp [hrest c rfl]
  rw [padded_eq, hunpadded, run_eq, List.takeWhile_append_of_pos hfound,
    List.dropWhile_append_of_pos hfound, hstop.1, hstop.2, List.append_nil,
    if_neg (by simpa using hne)]
  rfl

theorem padded_run_eq_none (h : ∀ c ∈ (unpadded s).head?, accepts c = false) :
    padded (run accepts) s = none := by
  have hstop : (unpadded s).takeWhile accepts = [] := by
    cases hs : unpadded s with
    | nil => rfl
    | cons c t => simp [h c (by rw [hs]; rfl)]
  rw [padded_eq, run_eq, hstop]
  rfl

end Run

section Reading

variable {f : Field} {n : Nat} {text : String} {s rest : List Char}

theorem number_append (h : IsNumeral n s) (hrest : ∀ c ∈ rest.head?, c.isDigit = false) :
    number (s ++ rest) = some (n, unpadded rest) := by
  rw [number, bind_of_some (padded_run_append (by decide) h.ne_nil h.digits hrest), h.value]
  rfl

theorem number_eq_none (h : ∀ c ∈ (unpadded s).head?, c.isDigit = false) : number s = none :=
  bind_of_none (padded_run_eq_none h) _

theorem name_append (h : IsName text s) (hrest : ∀ c ∈ rest.head?, c.isAlpha = false) :
    name (s ++ rest) = some (text, unpadded rest) := by
  rw [name, bind_of_some (padded_run_append (by decide) h.ne_nil h.letters hrest), h.value]
  rfl

theorem all_eq_none {c : Char} (hblank : c ≠ ' ') (hall : c ≠ '*') (hany : c ≠ '?')
    (s : List Char) : all f (c :: s) = none := by
  have hmark : (mark '*' <|> if f.takesAny then mark '?' else failure : Scan Unit) (c :: s) =
      none := by
    rw [orElse_of_none (mark_eq_none (by simpa using hall))]
    split
    · exact mark_eq_none (by simpa using hany)
    · rfl
  refine bind_of_none ?_ _
  rw [padded_eq, unpadded_cons hblank, hmark]
  rfl

theorem all_append (h : Span.Spelled f .all s) (rest : List Char) :
    all f (s ++ rest) = some (.all, unpadded rest) := by
  have hmark : (mark '*' <|> if f.takesAny then mark '?' else failure : Scan Unit)
      (unpadded (s ++ rest)) = some ((), rest) := by
    cases h with
    | all => exact orElse_of_some (mark_cons '*' rest) _
    | any h =>
      rw [h, if_pos rfl]
      exact (orElse_of_none (mark_eq_none (by simp [unpadded])) _).trans (mark_cons '?' rest)
  rw [all, bind_of_some (by rw [padded_eq, hmark]; rfl)]
  rfl

theorem between_append {a b : Nat} {t : List Char} (ha : IsNumeral a s) (hb : IsNumeral b t)
    (hrest : ∀ c ∈ rest.head?, c.isDigit = false) :
    between (s ++ '-' :: t ++ rest) = some (.between a b, unpadded rest) := by
  rw [List.append_assoc, between, bind_of_some (number_append ha (by simp)), List.cons_append,
    unpadded_cons (by decide), bind_of_some (mark_cons '-' _),
    bind_of_some (number_append hb hrest)]
  rfl

theorem betweenNames_append {a b : String} {t : List Char} (ha : IsName a s) (hb : IsName b t)
    (hrest : ∀ c ∈ rest.head?, c.isAlpha = false) :
    betweenNames (s ++ '-' :: t ++ rest) = some (.betweenNames a b, unpadded rest) := by
  rw [List.append_assoc, betweenNames, bind_of_some (name_append ha (by simp)), List.cons_append,
    unpadded_cons (by decide), bind_of_some (mark_cons '-' _), bind_of_some (name_append hb hrest)]
  rfl

theorem all_eq_none_of_numeral (h : IsNumeral n s) (rest : List Char) :
    all f (s ++ rest) = none := by
  obtain ⟨c, t, rfl, hc⟩ := h.exists_cons
  refine all_eq_none ?_ ?_ ?_ _ <;> (rintro rfl; revert hc; decide)

theorem all_eq_none_of_name (h : IsName text s) (rest : List Char) :
    all f (s ++ rest) = none := by
  obtain ⟨c, t, rfl, hc⟩ := h.exists_cons
  refine all_eq_none ?_ ?_ ?_ _ <;> (rintro rfl; revert hc; decide)

theorem number_eq_none_of_name (h : IsName text s) (rest : List Char) :
    number (s ++ rest) = none := by
  obtain ⟨c, t, rfl, hc⟩ := h.exists_cons
  have hblank : c ≠ ' ' := by
    rintro rfl
    revert hc
    decide
  refine number_eq_none ?_
  simpa [unpadded_cons hblank] using isDigit_of_isAlpha hc

theorem span_append {sp : Span} (h : sp.Spelled f s) (hrest : EndsSpan rest) :
    span f (s ++ rest) = some (sp, unpadded rest) := by
  -- The ways to read a span are tried one after the other: all before the right one have to fail.
  have hhyphen : mark '-' (unpadded rest) = none := mark_eq_none hrest.hyphen
  cases h with
  | all => exact orElse_of_some (all_append .all rest) _
  | any h => exact orElse_of_some (all_append (.any h) rest) _
  | between ha hb =>
    rw [span, orElse_of_none (by rw [List.append_assoc]; exact all_eq_none_of_numeral ha _)]
    exact orElse_of_some (between_append ha hb hrest.digit) _
  | one h =>
    have hnumber := number_append h hrest.digit
    have hbetween : between (s ++ rest) = none := by
      rw [between, bind_of_some hnumber, bind_of_none hhyphen]
    rw [span, orElse_of_none (all_eq_none_of_numeral h rest), orElse_of_none hbetween]
    exact orElse_of_some (map_of_some Span.one hnumber) _
  | @betweenNames a b s t ha hb =>
    rw [List.append_assoc]
    have hnumber := number_eq_none_of_name ha ('-' :: t ++ rest)
    have hbetween : between (s ++ ('-' :: t ++ rest)) = none := bind_of_none hnumber _
    rw [span, orElse_of_none (all_eq_none_of_name ha _), orElse_of_none hbetween,
      orElse_of_none (map_of_none Span.one hnumber), ← List.append_assoc]
    exact betweenNames_append ha hb hrest.letter

theorem span_eq_none_of_name (h : IsName text s) (hrest : EndsSpan rest) :
    span f (s ++ rest) = none := by
  have hhyphen : mark '-' (unpadded rest) = none := mark_eq_none hrest.hyphen
  have hnumber := number_eq_none_of_name h rest
  have hbetween : between (s ++ rest) = none := bind_of_none hnumber _
  rw [span, orElse_of_none (all_eq_none_of_name h rest), orElse_of_none hbetween,
    orElse_of_none (map_of_none Span.one hnumber), betweenNames,
    bind_of_some (name_append h hrest.letter), bind_of_none hhyphen]

theorem item_append {it : Item} (h : it.Spelled f s) (hrest : EndsItem rest) :
    item f (s ++ rest) = some (it, unpadded rest) := by
  have hslash : mark '/' (unpadded rest) = none := mark_eq_none hrest.slash
  cases h with
  | span h =>
    have hspan := span_append h hrest.toEndsSpan
    rw [item, orElse_of_none (by rw [steps, bind_of_some hspan, bind_of_none hslash])]
    exact orElse_of_some (map_of_some Item.span hspan) _
  | @steps sp n s t h hn =>
    refine orElse_of_some ?_ _
    rw [List.append_assoc, List.cons_append, steps, bind_of_some (span_append h (endsSpan_slash _)),
      unpadded_cons (by decide), bind_of_some (mark_cons '/' _),
      bind_of_some (number_append hn hrest.digit)]
    rfl
  | name h =>
    have hspan := span_eq_none_of_name (f := f) h hrest.toEndsSpan
    have hsteps : steps f (s ++ rest) = none := bind_of_none hspan _
    rw [item, orElse_of_none hsteps, orElse_of_none (map_of_none Item.span hspan)]
    exact map_of_some Item.name (name_append h hrest.letter)

theorem endsItem_listed {items : List Item} (h : Listed f items s) (hrest : EndsField rest) :
    EndsItem (s ++ rest) := by
  cases h with
  | nil => exact hrest.toEndsItem
  | cons => exact endsItem_comma _

theorem moreItems_append {items : List Item} (h : Listed f items s) (hrest : EndsField rest)
    {fuel : Nat} (hfuel : items.length ≤ fuel) :
    moreItems f fuel (unpadded (s ++ rest)) = some (items, unpadded rest) := by
  induction h generalizing fuel with
  | nil =>
    cases fuel with
    | zero => rfl
    | succ fuel => exact orElse_of_none (bind_of_none (mark_eq_none hrest.comma) _) _
  | @cons it items s t h ht ih =>
    obtain ⟨fuel, rfl⟩ : ∃ n, fuel = n + 1 := ⟨fuel - 1, by simp at hfuel; omega⟩
    have hitem : item f (s ++ t ++ rest) = some (it, unpadded (t ++ rest)) := by
      rw [List.append_assoc]
      exact item_append h (endsItem_listed ht hrest)
    refine orElse_of_some ?_ _
    rw [List.cons_append, unpadded_cons (by decide), bind_of_some (mark_cons ',' _),
      bind_of_some hitem, bind_of_some (ih (by simpa using hfuel))]
    rfl

theorem length_le_of_listed {items : List Item} (h : Listed f items s) :
    items.length ≤ s.length := by
  induction h with
  | nil => exact Nat.le_refl 0
  | cons _ _ ih =>
    simp only [List.length_cons, List.length_append]
    omega

theorem lift_eq {α : Type} (found : Option α) (s : List Char) :
    (liftM found : Scan α) s = found.map fun a => (a, s) := by
  cases found <;> rfl

theorem field_append {items : List Item} (h : f.Spelled items s) (hrest : EndsField rest) :
    field f (s ++ rest) = (f.values? items).map fun values => (values, unpadded rest) := by
  cases h with
  | @cons it items s t h ht =>
    have hitem : item f (s ++ t ++ rest) = some (it, unpadded (t ++ rest)) := by
      rw [List.append_assoc]
      exact item_append h (endsItem_listed ht hrest)
    -- Each further item takes a comma at least, so that the length of the text is enough.
    have hfuel : items.length ≤ (unpadded (t ++ rest)).length := by
      cases ht with
      | nil => exact Nat.zero_le _
      | @cons it items s t h ht =>
        have hlength := length_le_of_listed (.cons h ht)
        rw [List.cons_append, unpadded_cons (by decide), ← List.cons_append, List.length_append]
        exact Nat.le_add_right_of_le hlength
    have hget : (get : Scan (List Char)) (unpadded (t ++ rest)) =
      some (unpadded (t ++ rest), unpadded (t ++ rest)) := rfl
    rw [field, bind_of_some hitem, bind_of_some hget,
      bind_of_some (moreItems_append ht hrest hfuel), lift_eq]

end Reading

/-! ### What is spelled by the grammar -/

/-- What a scan takes off a text without blanks is spelled in a way. Without blanks, what is passed
over around marks is nothing, and so the text is what was taken and the rest. -/
def Takes {α : Type} (scan : Scan α) (Spelled : α → List Char → Prop) : Prop :=
  ∀ ⦃s a rest⦄, ' ' ∉ s → scan s = some (a, rest) → ∃ piece, s = piece ++ rest ∧ Spelled a piece

namespace Takes

variable {α β : Type} {scan other : Scan α} {Spelled Spelled' : α → List Char → Prop}

theorem imp (h : Takes scan Spelled) (himp : ∀ a s, Spelled a s → Spelled' a s) :
    Takes scan Spelled' := by
  intro s a rest hs hscan
  obtain ⟨piece, hpiece, hspelled⟩ := h hs hscan
  exact ⟨piece, hpiece, himp a piece hspelled⟩

theorem pure (a : α) : Takes (pure a) fun b s => b = a ∧ s = [] := by
  intro s b rest _ h
  obtain ⟨rfl, rfl⟩ := Prod.mk.inj (Option.some.inj h)
  exact ⟨[], rfl, rfl, rfl⟩

theorem bind {next : α → Scan β} {Next : α → β → List Char → Prop} (h : Takes scan Spelled)
    (hnext : ∀ a, Takes (next a) (Next a)) : Takes (scan >>= next) fun b s =>
      ∃ a first second, s = first ++ second ∧ Spelled a first ∧ Next a b second := by
  intro s b rest hs hbind
  obtain ⟨⟨a, middle⟩, hscan, hrest⟩ := Option.bind_eq_some_iff.mp hbind
  obtain ⟨first, rfl, hfirst⟩ := h hs hscan
  have hmiddle : ' ' ∉ middle := fun hmem => hs (List.mem_append_right first hmem)
  obtain ⟨second, rfl, hsecond⟩ := hnext a hmiddle hrest
  exact ⟨first ++ second, (List.append_assoc _ _ _).symm, a, first, second, rfl, hfirst, hsecond⟩

theorem map (f : α → β) (h : Takes scan Spelled) :
    Takes (f <$> scan) fun b s => ∃ a, b = f a ∧ Spelled a s := by
  rw [map_eq_pure_bind]
  refine (h.bind fun a => pure (f a)).imp ?_
  rintro b s ⟨a, first, second, rfl, hfirst, rfl, rfl⟩
  exact ⟨a, rfl, by rwa [List.append_nil]⟩

theorem orElse (h : Takes scan Spelled) (hother : Takes other Spelled) :
    Takes (scan <|> other) Spelled := by
  intro s a rest hs hor
  cases hscan : scan s with
  | none => exact hother hs (by rwa [orElse_of_none hscan] at hor)
  | some found =>
    rw [orElse_of_some hscan] at hor
    exact h hs (hscan.trans hor)

theorem padded (h : Takes scan Spelled) : Takes (padded scan) Spelled := by
  intro s a rest hs hpadded
  rw [padded_eq, unpadded_of_not_mem hs] at hpadded
  obtain ⟨⟨b, middle⟩, hscan, heq⟩ := Option.map_eq_some_iff.mp hpadded
  obtain ⟨piece, rfl, hpiece⟩ := h hs hscan
  have hmiddle : ' ' ∉ middle := fun hmem => hs (List.mem_append_right piece hmem)
  obtain ⟨rfl, rfl⟩ := Prod.mk.inj heq
  exact ⟨piece, by rw [unpadded_of_not_mem hmiddle], hpiece⟩

end Takes

theorem takes_mark (c : Char) : Takes (mark c) fun _ s => s = [c] := by
  intro s a rest _ h
  cases s with
  | nil => cases h
  | cons d s =>
    by_cases hd : d = c
    · subst hd
      rw [mark_cons] at h
      obtain ⟨-, rfl⟩ := Prod.mk.inj (Option.some.inj h)
      exact ⟨[d], rfl, rfl⟩
    · rw [mark_eq_none (by simpa using hd)] at h
      cases h

theorem takes_run (accepts : Char → Bool) :
    Takes (run accepts) fun found s => found = s ∧ s ≠ [] ∧ ∀ c ∈ s, accepts c = true := by
  intro s found rest _ h
  rw [run_eq] at h
  split at h
  next => cases h
  next hne =>
    obtain ⟨rfl, rfl⟩ := Prod.mk.inj (Option.some.inj h)
    exact ⟨_, List.takeWhile_append_dropWhile.symm, rfl, by simpa using hne,
      List.all_eq_true.mp List.all_takeWhile⟩

theorem takes_number : Takes number IsNumeral := by
  refine ((takes_run Char.isDigit).padded.bind fun found => Takes.pure _).imp ?_
  rintro n s ⟨found, first, second, rfl, ⟨rfl, hne, hdigits⟩, rfl, rfl⟩
  rw [List.append_nil]
  exact ⟨hne, hdigits, rfl⟩

theorem takes_name : Takes name IsName := by
  refine ((takes_run Char.isAlpha).padded.bind fun found => Takes.pure _).imp ?_
  rintro text s ⟨found, first, second, rfl, ⟨rfl, hne, hletters⟩, rfl, rfl⟩
  rw [List.append_nil]
  exact ⟨hne, hletters, rfl⟩

theorem Takes.parted {α β γ : Type} {scan : Scan α} {other : Scan β}
    {First : α → List Char → Prop} {Second : β → List Char → Prop} {Whole : γ → List Char → Prop}
    (h : Takes scan First) (c : Char) (hother : Takes other Second) {build : α → β → γ}
    (hwhole : ∀ {a b s t}, First a s → Second b t → Whole (build a b) (s ++ c :: t)) :
    Takes (do let a ← scan; mark c; return build a (← other)) Whole := by
  refine (h.bind fun a => (takes_mark c).bind fun _ =>
    hother.bind fun b => Takes.pure (build a b)).imp ?_
  rintro whole s ⟨a, first, _, rfl, ha, _, _, _, rfl, rfl, b, second, _, rfl, hb, rfl, rfl⟩
  rw [List.append_nil]
  exact hwhole ha hb

theorem takes_all (f : Field) : Takes (all f) (Span.Spelled f) := by
  have hany : Takes (if f.takesAny then mark '?' else failure) fun _ s =>
      Span.Spelled f .all s := by
    by_cases h : f.takesAny = true
    · rw [if_pos h]
      refine (takes_mark '?').imp ?_
      rintro _ s rfl
      exact .any h
    · rw [if_neg h]
      exact nofun
  have hmark : Takes (mark '*') fun _ s => Span.Spelled f .all s := by
    refine (takes_mark '*').imp ?_
    rintro _ s rfl
    exact .all
  refine ((hmark.orElse hany).padded.bind fun _ => Takes.pure Span.all).imp ?_
  rintro span s ⟨_, first, _, rfl, hspelled, rfl, rfl⟩
  rwa [List.append_nil]

theorem takes_span (f : Field) : Takes (span f) (Span.Spelled f) := by
  have hbetween : Takes between (Span.Spelled f) := takes_number.parted '-' takes_number .between
  have hnames : Takes betweenNames (Span.Spelled f) :=
    takes_name.parted '-' takes_name .betweenNames
  have hone : Takes (Span.one <$> number) (Span.Spelled f) := by
    refine (takes_number.map Span.one).imp ?_
    rintro span s ⟨n, rfl, hn⟩
    exact .one hn
  exact (takes_all f).orElse (hbetween.orElse (hone.orElse hnames))

theorem takes_item (f : Field) : Takes (item f) (Item.Spelled f) := by
  have hsteps : Takes (steps f) (Item.Spelled f) := (takes_span f).parted '/' takes_number .steps
  have hspan : Takes (Item.span <$> span f) (Item.Spelled f) := by
    refine ((takes_span f).map Item.span).imp ?_
    rintro item s ⟨span, rfl, hspan⟩
    exact .span hspan
  have hname : Takes (Item.name <$> name) (Item.Spelled f) := by
    refine (takes_name.map Item.name).imp ?_
    rintro item s ⟨text, rfl, htext⟩
    exact .name htext
  exact hsteps.orElse (hspan.orElse hname)

theorem takes_moreItems (f : Field) (fuel : Nat) : Takes (moreItems f fuel) (Listed f) := by
  have hnone : Takes (Pure.pure []) (Listed f) := by
    refine (Takes.pure []).imp ?_
    rintro items s ⟨rfl, rfl⟩
    exact .nil
  induction fuel with
  | zero => exact hnone
  | succ fuel ih =>
    refine Takes.orElse ?_ hnone
    refine ((takes_mark ',').bind fun _ => (takes_item f).bind fun item =>
      ih.bind fun items => Takes.pure (item :: items)).imp ?_
    rintro items s ⟨_, comma, _, rfl, hcomma, item, first, _, rfl, hitem, others, second, _, rfl,
      hothers, rfl, rfl⟩
    rw [List.append_nil, hcomma, List.singleton_append]
    exact .cons hitem hothers

/-- What a field reads of a text without blanks is spelled by the grammar. -/
theorem exists_spelled_of_field {f : Field} {s rest : List Char} {values : List Nat} (hs : ' ' ∉ s)
    (h : field f s = some (values, rest)) : ∃ items piece, s = piece ++ rest ∧
      f.Spelled items piece ∧ f.values? items = some values := by
  -- The item, the items after it, and the values of all, in the order of the reader.
  obtain ⟨⟨first, behind⟩, hfirst, hread⟩ := Option.bind_eq_some_iff.mp h
  obtain ⟨⟨more, last⟩, hmore, hread⟩ := Option.bind_eq_some_iff.mp hread
  have hlift : (liftM (f.values? (first :: more)) : Scan (List Nat)) last =
    some (values, rest) := hread
  rw [lift_eq] at hlift
  obtain ⟨found, hvalues, heq⟩ := Option.map_eq_some_iff.mp hlift
  obtain ⟨rfl, rfl⟩ := Prod.mk.inj heq
  obtain ⟨piece, rfl, hitem⟩ := takes_item f hs hfirst
  have hbehind : ' ' ∉ behind := fun hmem => hs (List.mem_append_right piece hmem)
  obtain ⟨others, rfl, hothers⟩ := takes_moreItems f _ hbehind hmore
  exact ⟨first :: more, piece ++ others, (List.append_assoc _ _ _).symm, .cons hitem hothers,
    hvalues⟩

end Scan

/-! ### Values -/

theorem mem_stepped {a b step n : Nat} :
    n ∈ stepped a b step ↔ (a ≤ n ∧ n ≤ b) ∧ step ∣ n - a := by
  simp only [stepped, List.mem_filter, List.mem_range, Bool.and_eq_true, decide_eq_true_eq,
    beq_iff_eq, Nat.dvd_iff_mod_eq_zero, Nat.lt_succ_iff]
  tauto

namespace Field

variable {f : Field} {items : List Item} {item : Item} {a b n step : Nat}

/-- A value that an item of a field has. -/
def Has (f : Field) (item : Item) (n : Nat) : Prop :=
  ∃ found, f.valuesOf? item = some found ∧ n ∈ found

theorem holds_iff : f.holds n = true ↔ f.least ≤ n ∧ n ≤ f.greatest := by
  simp [holds]

theorem valuesOf?_one (h : f.holds n = true) :
    f.valuesOf? (.span (.one n)) = some (stepped n n 1) := by
  simp [valuesOf?, bounds?, h]

theorem bounds?_between (ha : f.holds a = true) (hb : f.holds b = true) (hab : a ≤ b) (last : Nat) :
    f.bounds? last (.between a b) = some (a, b) := by
  simp [bounds?, ha, hb, hab]

theorem valuesOf?_between {first last : Nat}
    (h : f.bounds? f.greatest (.between first last) = some (a, b)) :
    f.valuesOf? (.span (.between first last)) = some (stepped a b 1) := by
  simp [valuesOf?, h]

theorem valuesOf?_steps {span : Span} (h : f.bounds? f.greatest span = some (a, b))
    (hstep : 1 ≤ step ∧ step ≤ f.greatest) :
    f.valuesOf? (.steps span step) = some (stepped a b step) := by
  simp [valuesOf?, h, hstep]

theorem has_iff (h : f.valuesOf? item = some (stepped a b step)) :
    f.Has item n ↔ (a ≤ n ∧ n ≤ b) ∧ step ∣ n - a := by
  simp [Has, h, mem_stepped]

theorem exists_values (h : ∀ item ∈ items, ∃ found, f.valuesOf? item = some found) :
    ∃ values, f.values? items = some values ∧
      ∀ n, n ∈ values ↔ n ≤ f.greatest ∧ ∃ item ∈ items, f.Has item n := by
  have hall : ∃ founds, items.mapM f.valuesOf? = some founds ∧
      ∀ n, (∃ found ∈ founds, n ∈ found) ↔ ∃ item ∈ items, f.Has item n := by
    induction items with
    | nil => exact ⟨[], rfl, by simp⟩
    | cons item items ih =>
      obtain ⟨found, hfound⟩ := h item List.mem_cons_self
      obtain ⟨founds, hfounds, hmem⟩ := ih fun other hother =>
        h other (List.mem_cons_of_mem item hother)
      refine ⟨found :: founds, by rw [List.mapM_cons, hfound, hfounds]; rfl, fun n => ?_⟩
      simp [hmem, Has, hfound]
  obtain ⟨founds, hfounds, hmem⟩ := hall
  refine ⟨_, by rw [values?, hfounds]; rfl, fun n => ?_⟩
  simp only [List.mem_filter, List.mem_range, Nat.lt_succ_iff, List.any_eq_true,
    List.contains_iff_mem, ← hmem]

theorem values?_eq_none (hitem : item ∈ items) (h : f.valuesOf? item = none) :
    f.values? items = none := by
  have hnone : items.mapM f.valuesOf? = none := by
    induction items with
    | nil => cases hitem
    | cons other items ih =>
      rw [List.mapM_cons]
      rcases List.mem_cons.mp hitem with rfl | hitem
      · rw [h]
        rfl
      · rw [ih hitem]
        cases f.valuesOf? other <;> rfl
  rw [values?, hnone]
  rfl

end Field

/-! ### Expressions -/

/-- A field is read to its end, if its text stands by itself, and has these values. -/
def Field.Reads (f : Field) (text : String) (values : List Nat) : Prop :=
  Scan.field f text.toList = some (values, [])

instance (f : Field) (text : String) (values : List Nat) : Decidable (f.Reads text values) :=
  inferInstanceAs (Decidable (_ = _))

theorem Field.Reads.exists_spelled {f : Field} {text : String} {values : List Nat}
    (h : f.Reads text values) (htext : ' ' ∉ text.toList) :
    ∃ items, f.Spelled items text.toList ∧ f.values? items = some values := by
  obtain ⟨items, piece, htext, hspelled, hvalues⟩ := Scan.exists_spelled_of_field htext h
  rw [List.append_nil] at htext
  exact ⟨items, htext ▸ hspelled, hvalues⟩

theorem Scan.field_blank {f other : Field} {items others : List Item} {values : List Nat}
    {s t : List Char} (h : f.Spelled items s) (hvalues : f.values? items = some values)
    (hother : other.Spelled others t) (rest : List Char) :
    field f (s ++ ' ' :: (t ++ rest)) = some (values, t ++ rest) := by
  obtain ⟨c, t, rfl, hc⟩ := hother.exists_cons
  rw [List.cons_append, field_append h (endsField_blank hc _), unpadded_blank hc, hvalues]
  rfl

theorem Scan.field_last {f : Field} {items : List Item} {s : List Char} (h : f.Spelled items s) :
    field f s = (f.values? items).map fun values => (values, []) := by
  have hfield := field_append h endsField_nil
  rwa [List.append_nil] at hfield

theorem all_false_of_mem_splitOnP {α : Type} {p : α → Bool} {s part : List α}
    (h : part ∈ s.splitOnP p) : ∀ c ∈ part, p c = false := by
  by_cases hall : ∀ c ∈ s, p c = false
  · rw [List.splitOnP_eq_singleton hall, List.mem_singleton] at h
    exact h ▸ hall
  · -- Both sides of a separator are shorter than `s`, and each part belongs to one of them.
    simp only [not_forall, Bool.not_eq_false] at hall
    obtain ⟨c, hc, hp⟩ := hall
    obtain ⟨before, after, rfl⟩ := List.append_of_mem hc
    rw [List.splitOnP_append_cons before after hp, List.mem_append] at h
    rcases h with h | h
    · exact all_false_of_mem_splitOnP h
    · exact all_false_of_mem_splitOnP h
termination_by s.length

theorem not_mem_of_mem_fieldsOf {text field : String} (h : field ∈ fieldsOf text) :
    ' ' ∉ field.toList := by
  obtain ⟨part, hpart, rfl⟩ := List.mem_map.mp h
  intro hblank
  rw [String.toList_ofList] at hblank
  have hfalse := all_false_of_mem_splitOnP (List.mem_filter.mp hpart).1 ' ' hblank
  exact absurd hfalse (by decide)

theorem scan?_eq (text : String) : scan? text = (Scan.expression text.toList).map (·.1) := rfl

theorem read_eq {text : String} {fields : List String} (h : normalFields text = .ok (.ok fields)) :
    read text = .ok (ofFields fields) := by
  rw [read, h]
  rfl

/-- Fields that are spelled are scanned to their values. -/
theorem scan?_five {minute hour day month normal : String} {minutes hours days months : List Nat}
    {minuteItems hourItems dayItems monthItems items : List Item} {years : List Nat}
    (hyears : Field.year.values? [.span .all] = some years)
    (hminute : Field.minute.Spelled minuteItems minute.toList)
    (hminutes : Field.minute.values? minuteItems = some minutes)
    (hhour : Field.hour.Spelled hourItems hour.toList)
    (hhours : Field.hour.values? hourItems = some hours)
    (hday : Field.day.Spelled dayItems day.toList)
    (hdays : Field.day.values? dayItems = some days)
    (hmonth : Field.month.Spelled monthItems month.toList)
    (hmonths : Field.month.values? monthItems = some months)
    (hweekday : Field.weekday.Spelled items normal.toList) :
    scan? (" ".intercalate ["0", minute, hour, day, month, normal]) =
      (Field.weekday.values? items).map
        fun weekdays => ⟨[0], minutes, hours, days, months, weekdays, years⟩ := by
  have hzero : IsNumeral 0 ['0'] :=
    ⟨List.cons_ne_nil _ _, List.forall_mem_singleton.mpr (by decide), by decide⟩
  have hsecond : Field.second.Spelled [.span (.one 0)] ['0'] :=
    (Item.Spelled.span (.one hzero)).listed
  have hseconds : Field.second.values? [.span (.one 0)] = some [0] := by decide
  have htext : (" ".intercalate ["0", minute, hour, day, month, normal]).toList =
      ['0'] ++ ' ' :: (minute.toList ++ ' ' :: (hour.toList ++ ' ' :: (day.toList ++
        ' ' :: (month.toList ++ ' ' :: (normal.toList ++ []))))) := by
    simp
  rw [scan?_eq, htext, Scan.expression,
    Scan.bind_of_some (Scan.field_blank hsecond hseconds hminute _),
    Scan.bind_of_some (Scan.field_blank hminute hminutes hhour _),
    Scan.bind_of_some (Scan.field_blank hhour hhours hday _),
    Scan.bind_of_some (Scan.field_blank hday hdays hmonth _),
    Scan.bind_of_some (Scan.field_blank hmonth hmonths hweekday _), List.append_nil]
  have hlast := Scan.field_last hweekday
  cases hweekdays : Field.weekday.values? items with
  | none => rw [Scan.bind_of_none (by rw [hlast, hweekdays]; rfl)]; rfl
  | some weekdays =>
    rw [Scan.bind_of_some (by rw [hlast, hweekdays]; rfl), hyears]
    rfl

/-- An expression of five fields, the first four of which have values, has those of its field of
weekdays beside them. -/
theorem read_five {text minute hour day month weekday normal : String}
    {minutes hours days months : List Nat} {items : List Item}
    (hfields : fieldsOf text = [minute, hour, day, month, weekday])
    (hminute : Field.minute.Reads minute minutes) (hhour : Field.hour.Reads hour hours)
    (hday : Field.day.Reads day days) (hmonth : Field.month.Reads month months)
    (hnormal : normalWeekdays weekday = .ok normal)
    (hweekday : Field.weekday.Spelled items normal.toList) :
    ∃ years, Field.year.values? [.span .all] = some years ∧
    read text = .ok (match Field.weekday.values? items with
      | some weekdays => .ok ⟨[0], minutes, hours, days, months, weekdays, years⟩
      | none => .error .invalid) := by
  have hfree : ∀ field ∈ [minute, hour, day, month, weekday], ' ' ∉ field.toList :=
    fun field hmem => not_mem_of_mem_fieldsOf (hfields ▸ hmem)
  obtain ⟨minuteItems, hminute, hminutes⟩ := hminute.exists_spelled (hfree minute (by simp))
  obtain ⟨hourItems, hhour, hhours⟩ := hhour.exists_spelled (hfree hour (by simp))
  obtain ⟨dayItems, hday, hdays⟩ := hday.exists_spelled (hfree day (by simp))
  obtain ⟨monthItems, hmonth, hmonths⟩ := hmonth.exists_spelled (hfree month (by simp))
  obtain ⟨years, hyears⟩ : ∃ years, Field.year.values? [.span .all] = some years := ⟨_, rfl⟩
  have hscan := scan?_five hyears hminute hminutes hhour hhours hday hdays hmonth hmonths hweekday
  have hfive : normalFields text = .ok (.ok ["0", minute, hour, day, month, normal]) := by
    rw [normalFields, hfields]
    simp only [hnormal]
    rfl
  refine ⟨years, hyears, ?_⟩
  rw [read_eq hfive, ofFields, hscan]
  cases Field.weekday.values? items <;> rfl

end Runbook.Cron
