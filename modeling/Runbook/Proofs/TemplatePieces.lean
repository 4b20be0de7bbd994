import Mathlib.Data.List.Basic
import Mathlib.Data.List.TakeWhile
import Runbook.Template
import Runbook.Workflow.Evaluation

/-!
The pieces of a template. A text falls into its pieces in one way only: at every place that is not
inside a placeholder, a placeholder begins there or the character stands for itself. Main statement:
substitution replaces the placeholders of this division by what variables, facts and choices say.
-/

namespace Runbook.Template

/-! ### Placeholders -/

/-- How a placeholder is written: a name of word characters between blanks in double braces. -/
inductive Spells : List Char → String → Prop where
  | intro {before after : List Char} {name : String} (hbefore : ∀ c ∈ before, Text.isBlank c = true)
      (hname : name.toList ≠ []) (hword : ∀ c ∈ name.toList, Text.isWord c = true)
      (hafter : ∀ c ∈ after, Text.isBlank c = true) :
    Spells ('\x7b' :: '\x7b' :: (before ++ name.toList ++ after) ++ ['\x7d', '\x7d']) name

theorem takeWhile_append_of_head {p : Char → Bool} {s rest : List Char}
    (hs : ∀ c ∈ s, p c = true) (hrest : ∀ c ∈ rest.head?, p c = false) :
    (s ++ rest).takeWhile p = s ∧ (s ++ rest).dropWhile p = rest := by
  rw [List.takeWhile_append_of_pos hs, List.dropWhile_append_of_pos hs]
  cases rest with
  | nil => simp
  | cons c rest =>
    have hc : p c = false := hrest c rfl
    simp [hc]

theorem isBlank_of_isWord {c : Char} (h : Text.isWord c = true) : Text.isBlank c = false := by
  by_contra hblank
  rw [Text.isWord_of_isBlank (by simpa using hblank)] at h
  cases h

/-- A placeholder is found where it is written, whatever comes after it. -/
theorem placeholderAt?_append {spelling : List Char} {name : String} (h : Spells spelling name)
    (rest : List Char) : placeholderAt? (spelling ++ rest) = some (name, rest) := by
  obtain ⟨hbefore, hname, hword, hafter⟩ := h
  rename_i before after
  obtain ⟨c, cs, hcs⟩ := List.exists_cons_of_ne_nil hname
  have hfirst : ∀ d ∈ (name.toList ++ (after ++ '\x7d' :: '\x7d' :: rest)).head?,
      Text.isBlank d = false := by
    intro d hd
    rw [hcs, List.cons_append, List.head?_cons, Option.mem_some_iff] at hd
    exact isBlank_of_isWord (hword d (by simp [hcs, hd]))
  have hend : ∀ d ∈ (after ++ '\x7d' :: '\x7d' :: rest).head?, Text.isWord d = false := by
    intro d hd
    cases after with
    | nil =>
      obtain rfl : '\x7d' = d := Option.some.inj hd
      decide
    | cons blank after =>
      obtain rfl : blank = d := Option.some.inj hd
      exact Text.isWord_of_isBlank (hafter _ List.mem_cons_self)
  have hbrace : ∀ d ∈ ('\x7d' :: '\x7d' :: rest).head?, Text.isBlank d = false := by
    intro d hd
    obtain rfl : '\x7d' = d := Option.some.inj hd
    decide
  obtain ⟨-, hstart⟩ := takeWhile_append_of_head hbefore hfirst
  obtain ⟨htake, hdrop⟩ := takeWhile_append_of_head hword hend
  obtain ⟨-, hclose⟩ := takeWhile_append_of_head hafter hbrace
  simp only [List.cons_append, List.append_assoc, List.nil_append, placeholderAt?, Text.trimStart,
    hstart, htake, hdrop, hclose]
  simp only [hcs]
  rw [← hcs, String.ofList_toList]

theorem exists_spells_of_placeholderAt? {s rest : List Char} {name : String}
    (h : placeholderAt? s = some (name, rest)) :
    ∃ spelling, Spells spelling name ∧ s = spelling ++ rest := by
  unfold placeholderAt? at h
  split at h
  · rename_i s
    dsimp only at h
    split at h
    · rename_i c cs _ hname hclose
      simp only [Option.some.injEq, Prod.mk.injEq] at h
      obtain ⟨rfl, rfl⟩ := h
      have hbefore : s.takeWhile Text.isBlank ++ Text.trimStart s = s :=
        List.takeWhile_append_dropWhile
      have hword : (Text.trimStart s).takeWhile Text.isWord ++
          (Text.trimStart s).dropWhile Text.isWord = Text.trimStart s :=
        List.takeWhile_append_dropWhile
      have hafter : ((Text.trimStart s).dropWhile Text.isWord).takeWhile Text.isBlank ++
          Text.trimStart ((Text.trimStart s).dropWhile Text.isWord) =
            (Text.trimStart s).dropWhile Text.isWord :=
        List.takeWhile_append_dropWhile
      refine ⟨_, .intro (fun d (hd : d ∈ s.takeWhile Text.isBlank) => List.mem_takeWhile_imp hd)
        ?_ ?_ (fun d (hd : d ∈ ((Text.trimStart s).dropWhile Text.isWord).takeWhile Text.isBlank) =>
          List.mem_takeWhile_imp hd), ?_⟩
      · rw [String.toList_ofList, hname]
        simp
      · rw [String.toList_ofList]
        exact fun d hd => List.mem_takeWhile_imp hd
      · rw [hclose] at hafter
        simp only [List.cons_append, List.append_assoc, List.nil_append, String.toList_ofList]
        rw [hafter, hword, hbefore]
    · cases h
  · cases h

theorem placeholderAt?_eq_none_iff {s : List Char} :
    placeholderAt? s = none ↔ ∀ spelling name, Spells spelling name → ¬ spelling <+: s := by
  constructor
  · rintro h spelling name hspelling ⟨rest, rfl⟩
    rw [placeholderAt?_append hspelling rest] at h
    cases h
  · intro h
    cases hfound : placeholderAt? s with
    | none => rfl
    | some found =>
      obtain ⟨spelling, hspelling, hs⟩ := exists_spells_of_placeholderAt? hfound
      exact absurd ⟨_, hs.symm⟩ (h spelling found.1 hspelling)

/-! ### The division of a text -/

/-- A division of a text from left to right. A character stands for itself only where no placeholder
is written. -/
inductive Decomposes : List Char → List Piece → Prop where
  | nil : Decomposes [] []
  | placeholder {spelling rest : List Char} {name : String} {ps : List Piece}
      (hspelling : Spells spelling name) (hrest : Decomposes rest ps) :
    Decomposes (spelling ++ rest) (.placeholder spelling name :: ps)
  | character {c : Char} {s : List Char} {ps : List Piece}
      (hnone : ∀ spelling name, Spells spelling name → ¬ spelling <+: c :: s)
      (hrest : Decomposes s ps) :
    Decomposes (c :: s) (.character c :: ps)

theorem Decomposes.flatMap_spelling {s : List Char} {ps : List Piece} (h : Decomposes s ps) :
    ps.flatMap Piece.spelling = s := by
  induction h with
  | nil => rfl
  | placeholder hspelling hrest ih => simp [Piece.spelling, ih]
  | character hnone hrest ih => simp [Piece.spelling, ih]

theorem decomposes_pieces (s : List Char) : Decomposes s (pieces s) := by
  induction s using pieces.induct with
  | case1 => simpa [pieces] using Decomposes.nil
  | case2 c s name rest hfound ih =>
    obtain ⟨spelling, hspelling, hs⟩ := exists_spells_of_placeholderAt? hfound
    have htake : (c :: s).take ((c :: s).length - rest.length) = spelling := by
      rw [hs]
      simp
    rw [pieces, hfound]
    simp only [htake]
    rw [hs]
    exact .placeholder hspelling ih
  | case3 c s hnone ih =>
    rw [pieces, hnone]
    exact .character (placeholderAt?_eq_none_iff.1 hnone) ih

/-- A text has no other division. -/
theorem Decomposes.eq_pieces {s : List Char} {ps : List Piece} (h : Decomposes s ps) :
    ps = pieces s := by
  induction h with
  | nil => simp [pieces]
  | @placeholder spelling rest name ps hspelling hrest ih =>
    have hfound := placeholderAt?_append hspelling rest
    obtain ⟨c, s, hs⟩ : ∃ c s, spelling ++ rest = c :: s := by
      cases hspelling with
      | intro => exact ⟨_, _, rfl⟩
    have htake : (c :: s).take ((c :: s).length - rest.length) = spelling := by
      rw [← hs]
      simp
    rw [hs] at hfound ⊢
    rw [pieces, hfound]
    simp only [htake]
    rw [ih]
  | character hnone hrest ih =>
    rw [pieces, placeholderAt?_eq_none_iff.2 hnone, ih]

/-! ### Names and values -/

/-- What stands for a name: the value of a variable, else the text of a fact, else a choice. -/
def valueFor? (w : Workspace) (name : String) : Option String :=
  ((w.vars.find? name).or ((w.facts.find? name).map Fact.asText)).or (w.choices.find? name)

/-- A placeholder gives way to what stands for its name; all else stays as it is written. -/
def Piece.replacement (w : Workspace) : Piece → List Char
  | .character c => [c]
  | .placeholder spelling name => ((valueFor? w name).map String.toList).getD spelling

theorem binding?_eq_valueFor? (w : Workspace) (name : String) :
    w.binding? name = valueFor? w name := by
  unfold Workspace.binding? Workspace.value? valueFor?
  cases hvar : w.variableNamed? name with
  | some value => simp [show w.vars.find? name = some value from hvar]
  | none =>
    have hvar : w.vars.find? name = none := hvar
    cases hfact : w.factNamed? name with
    | some fact => simp [hvar, show w.facts.find? name = some fact from hfact]
    | none => simp [hvar, show w.facts.find? name = none from hfact, Workspace.choiceNamed?]

theorem Piece.fill_eq_replacement (w : Workspace) (p : Piece) : p.fill w = p.replacement w := by
  cases p with
  | character c => rfl
  | placeholder spelling name =>
    rw [Piece.fill, Piece.replacement, binding?_eq_valueFor?]
    cases valueFor? w name <;> rfl

theorem Piece.name?_eq_some_iff {p : Piece} {name : String} :
    p.name? = some name ↔ ∃ spelling, p = .placeholder spelling name := by
  cases p with
  | character c => simp [Piece.name?]
  | placeholder spelling other => simp [Piece.name?]

theorem mem_parameters {text name : String} :
    name ∈ parameters text ↔ ∃ spelling, .placeholder spelling name ∈ pieces text.toList := by
  rw [parameters, Bindings.mem_names_ofPairs, List.map_map]
  simp only [Function.comp_def, List.map_id', List.mem_filterMap, Piece.name?_eq_some_iff]
  constructor
  · rintro ⟨p, hp, spelling, rfl⟩
    exact ⟨spelling, hp⟩
  · rintro ⟨spelling, hp⟩
    exact ⟨_, hp, spelling, rfl⟩

/-- The names come in order, each once. -/
theorem parameters_sorted (text : String) : (parameters text).Pairwise (· < ·) := by
  exact List.pairwise_map.mpr (Bindings.sorted_ofPairs _)

theorem mem_unresolved {w : Workspace} {text name : String} :
    name ∈ unresolved w text ↔ name ∈ parameters text ∧ valueFor? w name = none := by
  simp [unresolved, valueFor?, Workspace.isBound, Bindings.isBound, and_assoc]

theorem replacement_of_mem {w : Workspace} {text : String} {spelling : List Char} {name : String}
    (h : .placeholder spelling name ∈ pieces text.toList) :
    (name ∈ unresolved w text ∧ (Piece.placeholder spelling name).replacement w = spelling) ∨
      (name ∉ unresolved w text ∧ ∃ value, valueFor? w name = some value ∧
        (Piece.placeholder spelling name).replacement w = value.toList) := by
  have hparameter : name ∈ parameters text := mem_parameters.2 ⟨spelling, h⟩
  cases hvalue : valueFor? w name with
  | none =>
    exact .inl ⟨mem_unresolved.2 ⟨hparameter, hvalue⟩, by simp [Piece.replacement, hvalue]⟩
  | some value =>
    have hresolved : name ∉ unresolved w text := by simp [mem_unresolved, hvalue]
    exact .inr ⟨hresolved, value, rfl, by simp [Piece.replacement, hvalue]⟩

/-! ### Substitution -/

theorem substitute_eq (w : Workspace) (text : String) :
    substitute w text = String.ofList ((pieces text.toList).flatMap (Piece.replacement w)) := by
  have hfill : Piece.fill w = Piece.replacement w := funext (Piece.fill_eq_replacement w)
  rw [substitute, hfill]

theorem substitute_eq_self {w : Workspace} {text : String}
    (h : ∀ name ∈ parameters text, name ∈ unresolved w text) : substitute w text = text := by
  have hpieces : ∀ p ∈ pieces text.toList, p.replacement w = p.spelling := by
    intro p hp
    cases p with
    | character c => rfl
    | placeholder spelling name =>
      have hname : name ∈ unresolved w text := h name (mem_parameters.2 ⟨spelling, hp⟩)
      simp [Piece.replacement, Piece.spelling, (mem_unresolved.1 hname).2]
  have hspelling := (decomposes_pieces text.toList).flatMap_spelling
  rw [substitute_eq, List.flatMap_congr hpieces, hspelling, String.ofList_toList]

theorem substitute_congr {w w' : Workspace} {text : String}
    (h : ∀ name ∈ parameters text, valueFor? w name = valueFor? w' name) :
    substitute w text = substitute w' text := by
  have hpieces : ∀ p ∈ pieces text.toList, p.replacement w = p.replacement w' := by
    intro p hp
    cases p with
    | character c => rfl
    | placeholder spelling name =>
      rw [Piece.replacement, Piece.replacement, h name (mem_parameters.2 ⟨spelling, hp⟩)]
  rw [substitute_eq, substitute_eq, List.flatMap_congr hpieces]

def braced (name : String) : String := "\x7b\x7b" ++ name ++ "\x7d\x7d"

theorem pieces_braced {name : String} (hname : name ≠ "")
    (hword : ∀ c ∈ name.toList, Text.isWord c = true) :
    pieces (braced name).toList = [.placeholder (braced name).toList name] := by
  have hspelling : Spells (braced name).toList name := by
    have hempty : ∀ c ∈ ([] : List Char), Text.isBlank c = true := by simp
    simpa [braced] using Spells.intro hempty (by simpa) hword hempty
  have h : Decomposes ((braced name).toList ++ []) [.placeholder (braced name).toList name] :=
    .placeholder hspelling .nil
  rw [List.append_nil] at h
  exact h.eq_pieces.symm

theorem substitute_braced {w : Workspace} {name value : String} (hname : name ≠ "")
    (hword : ∀ c ∈ name.toList, Text.isWord c = true) (hvalue : valueFor? w name = some value) :
    substitute w (braced name) = value := by
  rw [substitute_eq, pieces_braced hname hword]
  simp [Piece.replacement, hvalue]

/-- Choices count only for names that neither a variable nor a fact has. -/
theorem valueFor?_of_isBound {w : Workspace} {name : String} (h : w.isBound name = true) :
    ∃ value, valueFor? w name = some value ∧ w.value? name = some value := by
  have hbinding := binding?_eq_valueFor? w name
  rw [Workspace.binding?] at hbinding
  cases hvalue : w.value? name with
  | some value => exact ⟨value, by rw [← hbinding, hvalue], rfl⟩
  | none =>
    have hvar : w.vars.find? name = none := by
      by_contra hsome
      obtain ⟨value, hsome⟩ := Option.ne_none_iff_exists'.1 hsome
      simp [Workspace.value?, Workspace.variableNamed?, hsome] at hvalue
    have hfact : w.facts.find? name = none := by
      simpa [Workspace.value?, Workspace.variableNamed?, Workspace.factNamed?, hvar] using hvalue
    simp [Workspace.isBound, Bindings.isBound, hvar, hfact] at h

/-- A condition on a variable or fact holds exactly of the value that a template inserts. -/
theorem substitute_braced_eq_iff {w : Workspace} {name : String} (hname : name ≠ "")
    (hword : ∀ c ∈ name.toList, Text.isWord c = true) (hbound : w.isBound name = true)
    (isFile : FilePath → Bool) (value : String) :
    substitute w (braced name) = value ↔
      (Condition.evaluation w isFile (.varEquals [(name, value)])).1 = true := by
  obtain ⟨bound, hinserted, hread⟩ := valueFor?_of_isBound hbound
  rw [substitute_braced hname hword hinserted]
  have hevaluation : (Condition.evaluation w isFile (.varEquals [(name, value)])).1 =
      Condition.valueIs w (name, value) := by
    have hone : [(name, value)].all (Condition.valueIs w) = Condition.valueIs w (name, value) := by
      simp
    exact hone
  rw [hevaluation, Condition.valueIs, hread]
  simp

/-- Substitution is one pass over the division of the text: nothing that it inserts is read again,
and a placeholder keeps its text exactly if its name is unresolved. The parameters are the names in
this division, and nothing but their values matters. A condition on the value of a variable or a
fact agrees with what is inserted for its name. -/
theorem substitute_one_pass :
    (∀ text, ∃ ps, (∀ qs, Decomposes text.toList qs ↔ qs = ps) ∧
      (∀ w, substitute w text = String.ofList (ps.flatMap (Piece.replacement w))) ∧
      (∀ w spelling name, .placeholder spelling name ∈ ps →
        (name ∈ unresolved w text ∧ (Piece.placeholder spelling name).replacement w = spelling) ∨
          (name ∉ unresolved w text ∧ ∃ value, valueFor? w name = some value ∧
            (Piece.placeholder spelling name).replacement w = value.toList)) ∧
      (∀ w, (∀ name ∈ parameters text, name ∈ unresolved w text) → substitute w text = text) ∧
      (parameters text).Pairwise (· < ·) ∧
      (∀ name, name ∈ parameters text ↔ ∃ spelling, .placeholder spelling name ∈ ps) ∧
      (∀ w w', (∀ name ∈ parameters text, valueFor? w name = valueFor? w' name) →
        substitute w text = substitute w' text)) ∧
      ∀ w name, name ≠ "" → (∀ c ∈ name.toList, Text.isWord c = true) → w.isBound name = true →
        ∀ isFile value, substitute w (braced name) = value ↔
          (Condition.evaluation w isFile (.varEquals [(name, value)])).1 = true := by
  refine ⟨fun text => ⟨pieces text.toList, fun qs => ?_, fun w => substitute_eq w text,
    fun w spelling name => replacement_of_mem, fun w => substitute_eq_self, parameters_sorted text,
    fun name => mem_parameters, fun w w' => substitute_congr⟩, ?_⟩
  · constructor
    · exact Decomposes.eq_pieces
    · rintro rfl
      exact decomposes_pieces text.toList
  · intro w name hname hword hbound
    exact substitute_braced_eq_iff hname hword hbound

/-- A value that looks like a placeholder is inserted as it is, and the condition on it holds. -/
theorem substitute_one_pass_placeholder_value :
    let w := Workspace.empty.setVariable "a" (braced "b")
    substitute w (braced "a") = braced "b" ↔
      (Condition.evaluation w (fun _ => false) (.varEquals [("a", braced "b")])).1 = true := by
  have hword : ∀ c ∈ "a".toList, Text.isWord c = true := by
    intro c hc
    obtain rfl : c = 'a' := by simpa using hc
    decide
  exact substitute_one_pass.2 _ "a" (by decide) hword (by decide) (fun _ => false) (braced "b")

end Runbook.Template
