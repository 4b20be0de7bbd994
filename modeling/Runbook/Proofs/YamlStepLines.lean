import Runbook.Proofs.JsonStepLines

/-!
The lines of steps in a YAML text. The search looks at lines only: at how far they are indented and
at their first character. Main statement: it finds the dashes of the block list below the first line
that begins with the key of the steps, whatever lines stand inside of its items.
-/

namespace Runbook

namespace StepLines

/-! ### Lines -/

section Lines

variable {column : Nat} {line : List Char}

/-- A line that is blank or a comment. -/
def IsSilent (line : List Char) : Prop :=
  Text.trimStart line = [] ∨ (Text.trimStart line).head? = some '#'

def indentOf (line : List Char) : Nat := byteLength line - byteLength (Text.trimStart line)

def IsKey (line : List Char) : Prop := "steps:".toList <+: Text.trimStart line

/-- A line whose first character is a dash in a column. -/
def IsDash (column : Nat) (line : List Char) : Prop :=
  indentOf line = column ∧ (Text.trimStart line).head? = some '-'

/-- A line that belongs to an item whose dash is in a column. -/
def IsInside (column : Nat) (line : List Char) : Prop := IsSilent line ∨ column < indentOf line

instance : Decidable (IsSilent line) := inferInstanceAs (Decidable (_ ∨ _))

instance : Decidable (IsKey line) := inferInstanceAs (Decidable (_ <+: _))

instance : Decidable (IsDash column line) := inferInstanceAs (Decidable (_ ∧ _))

instance : Decidable (IsInside column line) := inferInstanceAs (Decidable (_ ∨ _))

theorem IsKey.not_isSilent (h : IsKey line) : ¬ IsSilent line := by
  obtain ⟨rest, hrest⟩ := h
  simp [IsSilent, ← hrest]

theorem IsDash.not_isSilent (h : IsDash column line) : ¬ IsSilent line := by
  rintro (hblank | hcomment)
  · simp [IsDash, hblank] at h
  · simp [IsDash, hcomment] at h

end Lines

/-! ### Lines with content -/

/-- The lines with content, where the first line has the number after the given one. -/
def contentsFrom (number : Nat) : List (List Char) → List Content
  | [] => []
  | line :: rest =>
    if IsSilent line then contentsFrom (number + 1) rest
    else ⟨number + 1, indentOf line, Text.trimStart line⟩ :: contentsFrom (number + 1) rest

section Contents

variable {column number : Nat} {line : List Char} {lines rest : List (List Char)}

theorem contentsFrom_of_isSilent (h : IsSilent line) :
    contentsFrom number (line :: rest) = contentsFrom (number + 1) rest := if_pos h

theorem contentsFrom_of_not_isSilent (h : ¬ IsSilent line) : contentsFrom number (line :: rest) =
    ⟨number + 1, indentOf line, Text.trimStart line⟩ :: contentsFrom (number + 1) rest := if_neg h

theorem contents_eq_contentsFrom (lines : List (List Char)) :
    contents lines = contentsFrom 0 lines := by
  have hall : ∀ number, (lines.mapIdx fun i line =>
      let text := Text.trimStart line
      if text.isEmpty || text.head? == some '#' then none
      else some (⟨number + i + 1, indentOf line, text⟩ : Content)).filterMap id =
        contentsFrom number lines := by
    induction lines with
    | nil => exact fun _ => rfl
    | cons line rest ih =>
      intro number
      have hrest := ih (number + 1)
      simp only [Nat.add_right_comm number 1] at hrest
      rw [List.mapIdx_cons]
      by_cases hsilent : IsSilent line
      · have htest : ((Text.trimStart line).isEmpty ||
            (Text.trimStart line).head? == some '#') = true := by
          simpa [IsSilent] using hsilent
        rw [contentsFrom_of_isSilent hsilent, ← hrest]
        simp [htest, Nat.add_assoc]
      · have htest : ((Text.trimStart line).isEmpty ||
            (Text.trimStart line).head? == some '#') = false := by
          simpa [IsSilent] using hsilent
        rw [contentsFrom_of_not_isSilent hsilent, ← hrest]
        simp [htest, Nat.add_assoc]
  simpa [contents, indentOf] using hall 0

theorem contentsFrom_of_silent (h : ∀ line ∈ lines, IsSilent line) (number : Nat)
    (rest : List (List Char)) : contentsFrom number (lines ++ rest) = contentsFrom (number + lines.length) rest := by
  induction lines generalizing number with
  | nil => rfl
  | cons line lines ih =>
    obtain ⟨hline, hlines⟩ := List.forall_mem_cons.mp h
    rw [List.cons_append, contentsFrom_of_isSilent hline, ih hlines, List.length_cons,
      Nat.add_assoc, Nat.add_comm 1]

theorem dropWhile_contentsFrom (h : ∀ line ∈ lines, ¬ IsKey line) (number : Nat)
    (rest : List (List Char)) : (contentsFrom number (lines ++ rest)).dropWhile
        (fun c => !"steps:".toList.isPrefixOf c.text) =
      (contentsFrom (number + lines.length) rest).dropWhile
        fun c => !"steps:".toList.isPrefixOf c.text := by
  induction lines generalizing number with
  | nil => rfl
  | cons line lines ih =>
    obtain ⟨hline, hlines⟩ := List.forall_mem_cons.mp h
    rw [List.cons_append, List.length_cons, Nat.add_comm lines.length, ← Nat.add_assoc, ← ih hlines]
    by_cases hsilent : IsSilent line
    · rw [contentsFrom_of_isSilent hsilent]
    · rw [contentsFrom_of_not_isSilent hsilent, List.dropWhile_cons_of_pos]
      simpa [IsKey, ← List.isPrefixOf_iff_prefix] using hline

theorem itemLines_of_inside (h : ∀ line ∈ lines, IsInside column line) :
    itemLines column (contentsFrom number (lines ++ rest)) =
      itemLines column (contentsFrom (number + lines.length) rest) := by
  induction lines generalizing number with
  | nil => rfl
  | cons line lines ih =>
    obtain ⟨hline, hlines⟩ := List.forall_mem_cons.mp h
    rw [List.cons_append, List.length_cons, Nat.add_comm lines.length, ← Nat.add_assoc, ← ih hlines]
    by_cases hsilent : IsSilent line
    · rw [contentsFrom_of_isSilent hsilent]
    · have hdeeper : column < indentOf line := hline.resolve_left hsilent
      rw [contentsFrom_of_not_isSilent hsilent, itemLines, if_neg (by simp; omega),
        if_neg (by simp; omega)]

theorem itemLines_of_isDash (h : IsDash column line) :
    itemLines column (contentsFrom number (line :: rest)) =
      (number + 1) :: itemLines column (contentsFrom (number + 1) rest) := by
  rw [contentsFrom_of_not_isSilent h.not_isSilent, itemLines, if_pos ⟨h.1, by simp [isItem, h.2]⟩]

theorem itemLines_of_outside (hinside : ¬ IsInside column line) (hdash : ¬ IsDash column line) :
    itemLines column (contentsFrom number (line :: rest)) = [] := by
  obtain ⟨hsilent, hdeeper⟩ := not_or.mp hinside
  rw [contentsFrom_of_not_isSilent hsilent, itemLines, if_neg, if_pos (Nat.not_lt.mp hdeeper)]
  rintro ⟨hcolumn, hitem⟩
  exact hdash ⟨hcolumn, by simpa [isItem] using hitem⟩

end Contents

/-! ### Block lists -/

/-- An item of a block list: a line with a dash in its column, and lines that belong to it. -/
inductive IsItem (column : Nat) : List (List Char) → Prop
  | mk {dash : List Char} {inside : List (List Char)} (hdash : IsDash column dash)
    (hinside : ∀ line ∈ inside, IsInside column line) : IsItem column (dash :: inside)

/-- A block list in the lines of a text, below the first line that begins with the key. It goes on
up to a line that neither belongs to its last item nor begins another one. -/
structure BlockList (lines : List (List Char)) where
  before : List (List Char)
  key : List Char
  gap : List (List Char)
  column : Nat
  items : List (List (List Char))
  after : List (List Char)
  lines_eq : lines = before ++ key :: (gap ++ (items.flatten ++ after))
  not_isKey : ∀ line ∈ before, ¬ IsKey line
  isKey : IsKey key
  isSilent : ∀ line ∈ gap, IsSilent line
  isItem : ∀ item ∈ items, IsItem column item
  items_ne : items ≠ []
  outside : ∀ line ∈ after.head?, ¬ IsInside column line ∧ ¬ IsDash column line

/-- An item of the list, counted from 0, begins on a line, counted from 1. -/
def BlockList.Begins {lines : List (List Char)} (l : BlockList lines) (index line : Nat) : Prop :=
  ∃ front item back, l.items = front ++ item :: back ∧ index = front.length ∧
    line = (l.before ++ l.key :: (l.gap ++ front.flatten)).length + 1

def firstLines (number : Nat) : List (List (List Char)) → List Nat
  | [] => []
  | item :: rest => (number + 1) :: firstLines (number + item.length) rest

theorem getElem?_firstLines {number line : Nat} {items : List (List (List Char))} {index : Nat} :
    (firstLines number items)[index]? = some line ↔ ∃ front item back,
      items = front ++ item :: back ∧ index = front.length ∧
        line = number + front.flatten.length + 1 := by
  induction items generalizing number index with
  | nil => simp [firstLines]
  | cons item rest ih =>
    cases index with
    | zero =>
      constructor
      · intro h
        obtain rfl : number + 1 = line := Option.some.inj h
        exact ⟨[], item, rest, rfl, rfl, rfl⟩
      · rintro ⟨front, other, back, _, hlength, rfl⟩
        obtain rfl := List.eq_nil_of_length_eq_zero hlength.symm
        rfl
    | succ index =>
      rw [firstLines, List.getElem?_cons_succ, ih]
      constructor
      · rintro ⟨front, other, back, rfl, rfl, rfl⟩
        exact ⟨item :: front, other, back, rfl, rfl, by simp [Nat.add_assoc]⟩
      · rintro ⟨_ | ⟨first, front⟩, other, back, heq, hlength, rfl⟩
        · cases hlength
        · obtain ⟨rfl, rfl⟩ := List.cons.inj heq
          exact ⟨front, other, back, rfl, Nat.succ.inj hlength, by simp [Nat.add_assoc]⟩

theorem itemLines_of_isItem {column number : Nat} {items : List (List (List Char))}
    {after : List (List Char)} (hitems : ∀ item ∈ items, IsItem column item)
    (hafter : ∀ line ∈ after.head?, ¬ IsInside column line ∧ ¬ IsDash column line) :
    itemLines column (contentsFrom number (items.flatten ++ after)) = firstLines number items := by
  induction items generalizing number with
  | nil =>
    cases after with
    | nil => rfl
    | cons line rest =>
      obtain ⟨hinside, hdash⟩ := hafter line rfl
      exact itemLines_of_outside hinside hdash
  | cons item rest ih =>
    obtain ⟨⟨hdash, hinside⟩, hrest⟩ := List.forall_mem_cons.mp hitems
    rename_i dash inside
    rw [List.flatten_cons, List.append_assoc, List.cons_append, itemLines_of_isDash hdash,
      itemLines_of_inside hinside, ih hrest, firstLines, List.length_cons, Nat.add_assoc,
      Nat.add_comm 1]

theorem exists_items (column : Nat) (lines : List (List Char)) :
    ∃ (inside : List (List Char)) (items : List (List (List Char))) (after : List (List Char)),
      lines = inside ++ (items.flatten ++ after) ∧ (∀ line ∈ inside, IsInside column line) ∧
        (∀ item ∈ items, IsItem column item) ∧
        ∀ line ∈ after.head?, ¬ IsInside column line ∧ ¬ IsDash column line := by
  induction lines with
  | nil => exact ⟨[], [], [], rfl, by simp, by simp, by simp⟩
  | cons line rest ih =>
    obtain ⟨inside, items, after, rfl, hinside, hitems, hafter⟩ := ih
    by_cases hline : IsInside column line
    · exact ⟨line :: inside, items, after, rfl, List.forall_mem_cons.mpr ⟨hline, hinside⟩, hitems,
        hafter⟩
    · by_cases hdash : IsDash column line
      · exact ⟨[], (line :: inside) :: items, after, by simp, by simp,
          List.forall_mem_cons.mpr ⟨⟨hdash, hinside⟩, hitems⟩, hafter⟩
      · refine ⟨[], [], line :: (inside ++ (items.flatten ++ after)), rfl, by simp, by simp, ?_⟩
        rintro _ ⟨⟩
        exact ⟨hline, hdash⟩

/-! ### The search -/

variable {s : List Char}

theorem ofYaml_of_lines {before rest : List (List Char)} {key : List Char}
    (h : Text.lines s = before ++ key :: rest) (hbefore : ∀ line ∈ before, ¬ IsKey line)
    (hkey : IsKey key) : ofYaml s = match contentsFrom (before.length + 1) rest with
      | [] => []
      | first :: others => if isItem first then itemLines first.indent (first :: others) else [] := by
  have hdrop : (contents (Text.lines s)).dropWhile (fun c => !"steps:".toList.isPrefixOf c.text) =
      ⟨before.length + 1, indentOf key, Text.trimStart key⟩ ::
        contentsFrom (before.length + 1) rest := by
    rw [h, contents_eq_contentsFrom, dropWhile_contentsFrom hbefore, Nat.zero_add,
      contentsFrom_of_not_isSilent hkey.not_isSilent, List.dropWhile_cons_of_neg]
    simpa [IsKey, ← List.isPrefixOf_iff_prefix] using hkey
  rw [ofYaml, hdrop]
  cases contentsFrom (before.length + 1) rest <;> rfl

/-- The search finds the lines on which the items of the block list begin. -/
theorem getElem?_ofYaml (l : BlockList (Text.lines s)) (index line : Nat) :
    (ofYaml s)[index]? = some line ↔ l.Begins index line := by
  obtain ⟨before, key, gap, column, items, after, hlines, hbefore, hkey, hgap, hitems, hne, hafter⟩ := l
  have hcontents : contentsFrom (before.length + 1) (gap ++ (items.flatten ++ after)) =
      contentsFrom (before.length + 1 + gap.length) (items.flatten ++ after) :=
    contentsFrom_of_silent hgap _ _
  have hfound : ofYaml s = firstLines (before.length + 1 + gap.length) items := by
    rw [ofYaml_of_lines hlines hbefore hkey, hcontents, ← itemLines_of_isItem hitems hafter]
    obtain ⟨item, rest, rfl⟩ := List.exists_cons_of_ne_nil hne
    obtain ⟨⟨hdash, -⟩, -⟩ := List.forall_mem_cons.mp hitems
    rename_i dash inside
    rw [List.flatten_cons, List.append_assoc, List.cons_append,
      contentsFrom_of_not_isSilent hdash.not_isSilent]
    simp [isItem, hdash.1, hdash.2]
  rw [hfound, getElem?_firstLines]
  simp only [BlockList.Begins, List.length_append, List.length_cons]
  refine exists_congr fun front => exists_congr fun item => exists_congr fun back => ?_
  refine and_congr_right fun _ => and_congr_right fun _ => ?_
  constructor <;> intro h <;> omega

/-- Where the search finds anything, there is a block list. -/
theorem exists_blockList (h : ofYaml s ≠ []) : Nonempty (BlockList (Text.lines s)) := by
  cases hfind : (Text.lines s).find? fun line => decide (IsKey line) with
  | none =>
    have hnone : ∀ line ∈ Text.lines s, ¬ IsKey line := by simpa using hfind
    have hdrop := dropWhile_contentsFrom hnone 0 []
    rw [List.append_nil, ← contents_eq_contentsFrom] at hdrop
    exact absurd (by rw [ofYaml, hdrop]; rfl) h
  | some key =>
    obtain ⟨hkey, before, rest, hlines, hbefore⟩ := List.find?_eq_some_iff_append.mp hfind
    rw [decide_eq_true_eq] at hkey
    have hbefore : ∀ line ∈ before, ¬ IsKey line := by simpa using hbefore
    rw [ofYaml_of_lines hlines hbefore hkey] at h
    cases hfirst : rest.find? fun line => !decide (IsSilent line) with
    | none =>
      have hsilent : ∀ line ∈ rest, IsSilent line := by simpa using hfirst
      have hnothing := contentsFrom_of_silent hsilent (before.length + 1) []
      rw [List.append_nil] at hnothing
      exact absurd (by rw [hnothing]; rfl) h
    | some first =>
      obtain ⟨hcontent, gap, others, rfl, hgap⟩ := List.find?_eq_some_iff_append.mp hfirst
      have hcontent : ¬ IsSilent first := by simpa using hcontent
      have hgap : ∀ line ∈ gap, IsSilent line := by simpa using hgap
      rw [contentsFrom_of_silent hgap, contentsFrom_of_not_isSilent hcontent] at h
      have hdash : IsDash (indentOf first) first := by
        by_contra hdash
        exact h (if_neg (by simpa [isItem, IsDash] using hdash))
      obtain ⟨inside, items, after, rfl, hinside, hitems, hafter⟩ :=
        exists_items (indentOf first) others
      exact ⟨⟨before, key, gap, indentOf first, (first :: inside) :: items, after,
        by simp [hlines], hbefore, hkey, hgap,
        List.forall_mem_cons.mpr ⟨⟨hdash, hinside⟩, hitems⟩, by simp, hafter⟩⟩

end StepLines

namespace Workflow

/-- The lines of steps that a workflow reports. In JSON every step has one, the line of its brace, if
the search starts at the list of steps. In YAML they are the lines on which the items of the block
list begin, and without such a list there are none. -/
theorem step_lines_exact (content : String) (w : Workflow) :
    (read .json content = .ok w → Json.FindsSteps content.toList →
      (∀ fields, Json.read? content = some (.object fields) →
        (Bindings.names fields).count "steps" ≤ 1) →
      (∀ i line, (i, line) ∈ w.source.stepLines → Json.ItemBegins content.toList i line) ∧
        ∀ i < w.steps.length, ∃ line, (i, line) ∈ w.source.stepLines) ∧
    (read .yaml content = .ok w →
      (∀ (list : StepLines.BlockList (Text.lines content.toList)) (i line : Nat),
        (i, line) ∈ w.source.stepLines ↔ list.Begins i line) ∧
      (w.source.stepLines ≠ [] → Nonempty (StepLines.BlockList (Text.lines content.toList)))) := by
  refine ⟨step_lines_of_json, fun h => ?_⟩
  obtain ⟨_, _, _, _, rfl⟩ := exists_of_read h
  refine ⟨fun list i line => mem_indexed.trans (StepLines.getElem?_ofYaml list i line),
    fun hlines => StepLines.exists_blockList fun hnone => hlines ?_⟩
  simp [stepLines, hnone, StepLines.indexed]

/-- A workflow in YAML with two steps; a comment belongs to the first of them. -/
def twoItems : String := "steps:\n- run: a\n# c\n- run: b\n"

def twoItemsList : StepLines.BlockList (Text.lines twoItems.toList) where
  before := []
  key := "steps:".toList
  gap := []
  column := 0
  items := [["- run: a".toList, "# c".toList], ["- run: b".toList]]
  after := []
  lines_eq := by decide
  not_isKey := by simp
  isKey := by decide
  isSilent := by simp
  isItem := List.forall_mem_cons.mpr ⟨⟨by decide, by decide⟩,
    List.forall_mem_singleton.mpr ⟨by decide, by decide⟩⟩
  items_ne := by simp
  outside := by simp

theorem step_lines_exact_two :
    (∃ w, read .json twoSteps = .ok w ∧ w.steps.length = 2 ∧
      (∀ i line, (i, line) ∈ w.source.stepLines → Json.ItemBegins twoSteps.toList i line) ∧
      ∀ i < w.steps.length, ∃ line, (i, line) ∈ w.source.stepLines) ∧
    ∃ w, read .yaml twoItems = .ok w ∧ (0, 2) ∈ w.source.stepLines ∧
      (1, 4) ∈ w.source.stepLines := by
  constructor
  · obtain ⟨w, hread, hlength, hfinds, honce⟩ := exists_read_twoSteps
    exact ⟨w, hread, hlength, (step_lines_exact _ w).1 hread hfinds honce⟩
  · have hsome : (read .yaml twoItems).toOption.isSome = true := by decide +kernel
    cases hread : read .yaml twoItems with
    | error e => simp [hread, Except.toOption] at hsome
    | ok w =>
      obtain ⟨hlines, -⟩ := (step_lines_exact _ w).2 hread
      exact ⟨w, rfl, (hlines twoItemsList 0 2).2 ⟨[], _, _, rfl, rfl, by decide⟩,
        (hlines twoItemsList 1 4).2 ⟨[_], _, [], rfl, rfl, by decide⟩⟩

end Workflow

end Runbook
