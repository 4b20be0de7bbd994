import Runbook.Capture
import Runbook.Proofs.TextCuts

/-!
Values taken from lines that bind names to them. Main statement: the value of a name comes from the
first line that binds just that name, and what is written in quotes after a name is read back as it
is.
-/

namespace Runbook.Extraction

/-! ### Lines that bind a name -/

/-- A line binds a name to a value: it is no comment, the name stands before its first `=`, and the
value after it, neither of them empty. Blanks at the ends of the line, of the name and of the value
do not count. -/
inductive Binds (line : List Char) : List Char → List Char → Prop
  | intro {left right : List Char} (hparts : Text.trim line = left ++ '=' :: right)
    (hfirst : '=' ∉ left) (hcomment : (Text.trim line).head? ≠ some '#')
    (hname : Text.trimEnd left ≠ []) (hvalue : Text.trim right ≠ []) :
    Binds line (Text.trimEnd left) (Text.trim right)

def IsQuote (c : Char) : Prop := c = '"' ∨ c = '\''

/-- A written value has one pair of equal quotes around what it says, or it has none and says what
it is. -/
def Says (written value : List Char) : Prop :=
  (∃ q, IsQuote q ∧ written = q :: value ++ [q]) ∨
    ((∀ q s, IsQuote q → written ≠ q :: s ++ [q]) ∧ written = value)

theorem Says.unique {written value value' : List Char} (h : Says written value)
    (h' : Says written value') : value = value' := by
  rcases h with ⟨q, hq, rfl⟩ | ⟨hbare, rfl⟩
  · rcases h' with ⟨q', _, heq⟩ | ⟨hbare, _⟩
    · exact List.append_inj_left' (List.cons.inj heq).2 rfl
    · exact absurd rfl (hbare q value hq)
  · rcases h' with ⟨q, hq, heq⟩ | ⟨_, rfl⟩
    · exact absurd heq (hbare q value' hq)
    · rfl

theorem says_unquoted (written : List Char) : Says written (unquoted written) := by
  cases written with
  | nil => exact .inr ⟨fun q s _ => by simp, rfl⟩
  | cons first rest =>
    rw [unquoted]
    split
    · rename_i h
      simp only [Bool.and_eq_true, Bool.or_eq_true, beq_iff_eq] at h
      obtain ⟨hq, hlast⟩ := h
      obtain ⟨s, rfl⟩ := List.getLast?_eq_some_iff.mp hlast
      exact .inl ⟨first, hq, by rw [List.dropLast_concat]; rfl⟩
    · rename_i h
      refine .inr ⟨fun q s hq heq => h ?_, rfl⟩
      obtain ⟨rfl, rfl⟩ := List.cons.inj heq
      rcases hq with rfl | rfl <;> simp

theorem says_iff {written value : List Char} : Says written value ↔ unquoted written = value :=
  ⟨(says_unquoted written).unique, fun h => h ▸ says_unquoted written⟩

/-- A line binds one name only, and to one value. -/
theorem Binds.unique {line name name' value value' : List Char} (h : Binds line name value)
    (h' : Binds line name' value') : name = name' ∧ value = value' := by
  obtain @⟨left, right, hparts, hfirst, -, -, -⟩ := h
  obtain @⟨left', right', hparts', hfirst', -, -, -⟩ := h'
  have hcut := Text.splitsAt_singleton_iff.mpr ⟨hparts, hfirst⟩
  obtain ⟨rfl, rfl⟩ := hcut.unique (Text.splitsAt_singleton_iff.mpr ⟨hparts', hfirst'⟩)
  exact ⟨rfl, rfl⟩

/-! ### What is taken from a line -/

variable {name line value : List Char}

theorem lineValue?_eq_some_iff (hname : name ≠ []) :
    lineValue? name line = some value ↔
      ∃ written, Binds line name written ∧ Says written value := by
  simp only [says_iff]
  constructor
  · intro h
    unfold lineValue? at h
    simp only at h
    split at h
    · cases h
    · rename_i hcomment
      obtain ⟨⟨left, right⟩, hcut, hrest⟩ := Option.bind_eq_some_iff.mp h
      obtain ⟨hparts, hfirst⟩ := Text.cut_singleton_eq_some_iff.mp hcut
      obtain ⟨⟨rfl, hvalue⟩, hsays⟩ := Option.ite_none_right_eq_some.mp hrest
      exact ⟨_, .intro hparts hfirst (by simpa using hcomment) hname hvalue, Option.some.inj hsays⟩
  · rintro ⟨_, @⟨left, right, hparts, hfirst, hcomment, _, hvalue⟩, rfl⟩
    have hcut : Text.cut ['='] (Text.trim line) = some (left, right) :=
      Text.cut_singleton_eq_some_iff.mpr ⟨hparts, hfirst⟩
    unfold lineValue?
    simp [hcomment, hcut, hvalue]

theorem lineValue?_eq_none_iff (hname : name ≠ []) :
    lineValue? name line = none ↔ ∀ written, ¬ Binds line name written := by
  constructor
  · intro h written hbinds
    have hvalue := (lineValue?_eq_some_iff hname).mpr ⟨written, hbinds, says_unquoted written⟩
    rw [h] at hvalue
    cases hvalue
  · intro h
    rw [Option.eq_none_iff_forall_ne_some]
    intro value hvalue
    obtain ⟨written, hbinds, _⟩ := (lineValue?_eq_some_iff hname).mp hvalue
    exact h written hbinds

/-! ### What is taken from lines -/

variable {key : String} {lines : List String}

theorem keyValue?_of_eq_nil (hkey : Text.trim key.toList = []) : keyValue? key lines = none := by
  simp [keyValue?, hkey]

theorem keyValue?_of_ne_nil (hkey : Text.trim key.toList ≠ []) : keyValue? key lines =
    (lines.findSome? fun line => lineValue? (Text.trim key.toList) line.toList).map
      String.ofList := by
  simp [keyValue?, hkey]

theorem Binds.name_ne_nil (h : Binds line name value) : name ≠ [] := by
  cases h with
  | intro _ _ _ hname _ => exact hname

/-- The value comes from the first line that binds just the key. -/
theorem keyValue?_eq_some_iff {value : String} : keyValue? key lines = some value ↔
    ∃ before line after written, lines = before ++ line :: after ∧
      (∀ earlier ∈ before, ∀ other, ¬ Binds earlier.toList (Text.trim key.toList) other) ∧
      Binds line.toList (Text.trim key.toList) written ∧ Says written value.toList := by
  by_cases hkey : Text.trim key.toList = []
  · rw [keyValue?_of_eq_nil hkey]
    constructor
    · intro h
      cases h
    · rintro ⟨_, _, _, _, _, _, hbinds, _⟩
      exact absurd hkey hbinds.name_ne_nil
  · rw [keyValue?_of_ne_nil hkey, Option.map_eq_some_iff]
    simp only [List.findSome?_eq_some_iff, lineValue?_eq_some_iff hkey, lineValue?_eq_none_iff hkey]
    constructor
    · rintro ⟨_, ⟨before, line, after, rfl, ⟨written, hbinds, hsays⟩, hbefore⟩, rfl⟩
      exact ⟨before, line, after, written, rfl, hbefore, hbinds, by simpa using hsays⟩
    · rintro ⟨before, line, after, written, rfl, hbefore, hbinds, hsays⟩
      exact ⟨value.toList, ⟨before, line, after, rfl, ⟨written, hbinds, hsays⟩, hbefore⟩,
        String.ofList_toList⟩

theorem keyValue?_eq_none_iff : keyValue? key lines = none ↔
    ∀ line ∈ lines, ∀ written, ¬ Binds line.toList (Text.trim key.toList) written := by
  by_cases hkey : Text.trim key.toList = []
  · rw [keyValue?_of_eq_nil hkey]
    exact iff_of_true rfl fun _ _ _ hbinds => hbinds.name_ne_nil hkey
  · rw [keyValue?_of_ne_nil hkey, Option.map_eq_none_iff, List.findSome?_eq_none_iff]
    simp only [lineValue?_eq_none_iff hkey]

theorem keyValue?_append_cons {before after : List String} {line : String}
    (h : ∀ written, ¬ Binds line.toList (Text.trim key.toList) written) :
    keyValue? key (before ++ line :: after) = keyValue? key (before ++ after) := by
  by_cases hkey : Text.trim key.toList = []
  · rw [keyValue?_of_eq_nil hkey, keyValue?_of_eq_nil hkey]
  · rw [keyValue?_of_ne_nil hkey, keyValue?_of_ne_nil hkey, List.findSome?_append,
      List.findSome?_append, List.findSome?_cons, (lineValue?_eq_none_iff hkey).mpr h]

/-! ### Lines as they are written -/

/-- A name that a line can bind: blanks stand at neither of its ends, and it is neither empty nor
read as a comment or as a name and a value. -/
structure IsKey (name : List Char) : Prop where
  trimmed : Text.trim name = name
  filled : name ≠ []
  noComment : name.head? ≠ some '#'
  noParts : '=' ∉ name

/-- A line with a name and a value in quotes, and blanks around the line and around its `=`. -/
structure QuotedLine where
  name : List Char
  value : List Char
  quote : Char
  indent : List Char
  beforeEquals : List Char
  afterEquals : List Char
  rest : List Char

namespace QuotedLine

def written (l : QuotedLine) : List Char := l.quote :: l.value ++ [l.quote]

def parts (l : QuotedLine) : List Char :=
  l.name ++ l.beforeEquals ++ '=' :: (l.afterEquals ++ l.written)

def text (l : QuotedLine) : List Char := l.indent ++ l.parts ++ l.rest

structure IsWellFormed (l : QuotedLine) : Prop where
  key : IsKey l.name
  quoted : IsQuote l.quote
  indent : ∀ c ∈ l.indent, Text.isBlank c = true
  beforeEquals : ∀ c ∈ l.beforeEquals, Text.isBlank c = true
  afterEquals : ∀ c ∈ l.afterEquals, Text.isBlank c = true
  rest : ∀ c ∈ l.rest, Text.isBlank c = true

theorem getLast?_append_written (l : QuotedLine) (s : List Char) :
    (s ++ l.written).getLast? = some l.quote := by
  rw [written, ← List.append_assoc, List.getLast?_concat]

variable {l : QuotedLine}

namespace IsWellFormed

theorem isBlank_quote (h : l.IsWellFormed) : Text.isBlank l.quote = false := by
  rcases h.quoted with hq | hq <;> rw [hq] <;> decide

theorem isBlank_of_getLast? (h : l.IsWellFormed) (s : List Char) :
    ∀ c, (s ++ l.written).getLast? = some c → Text.isBlank c = false := by
  intro c hc
  rw [getLast?_append_written] at hc
  obtain rfl := Option.some.inj hc
  exact h.isBlank_quote

theorem trimEnd_name (h : l.IsWellFormed) : Text.trimEnd (l.name ++ l.beforeEquals) = l.name := by
  rw [Text.trimEnd_append h.beforeEquals, ← h.key.trimmed, Text.trimEnd_trim]

theorem trim_value (h : l.IsWellFormed) : Text.trim (l.afterEquals ++ l.written) = l.written := by
  have htrim := Text.trim_append h.afterEquals (List.forall_mem_nil _) l.written
  rw [List.append_nil] at htrim
  rw [htrim]
  refine Text.trim_eq_self (fun c hc => ?_) (h.isBlank_of_getLast? [])
  obtain rfl : l.quote = c := Option.some.inj hc
  exact h.isBlank_quote

theorem head?_parts (h : l.IsWellFormed) : l.parts.head? = l.name.head? := by
  rw [parts, List.append_assoc, List.head?_append_of_ne_nil _ h.key.filled]

theorem trim_text (h : l.IsWellFormed) : Text.trim l.text = l.parts := by
  rw [text, Text.trim_append h.indent h.rest]
  apply Text.trim_eq_self
  · intro c hc
    rw [h.head?_parts, ← h.key.trimmed] at hc
    exact Text.isBlank_of_head?_trim hc
  · have hparts : l.parts = (l.name ++ l.beforeEquals ++ '=' :: l.afterEquals) ++ l.written := by
      simp [parts]
    rw [hparts]
    exact h.isBlank_of_getLast? _

theorem binds (h : l.IsWellFormed) : Binds l.text l.name l.written := by
  have hequals : '=' ∉ l.name ++ l.beforeEquals := by
    intro hmem
    rcases List.mem_append.mp hmem with hmem | hmem
    · exact h.key.noParts hmem
    · exact absurd (h.beforeEquals '=' hmem) (by decide)
  have hcomment : (Text.trim l.text).head? ≠ some '#' := by
    rw [h.trim_text, h.head?_parts]
    exact h.key.noComment
  have hname : Text.trimEnd (l.name ++ l.beforeEquals) ≠ [] := by
    rw [h.trimEnd_name]
    exact h.key.filled
  have hvalue : Text.trim (l.afterEquals ++ l.written) ≠ [] := by
    rw [h.trim_value]
    exact List.cons_ne_nil _ _
  have hbinds := Binds.intro h.trim_text hequals hcomment hname hvalue
  rwa [h.trimEnd_name, h.trim_value] at hbinds

end IsWellFormed

end QuotedLine

/-- The value of a key is what the first line that binds just this key says, and there is none if no
line does. A line that binds another name, whatever the two names share, changes nothing. What a
line says in quotes is read back, after any lines that do not bind its key. -/
theorem first_binding_captured :
    (∀ key lines value, (Extraction.keyValue key).apply lines = .ok (some value) ↔
      ∃ before line after written, lines = before ++ line :: after ∧
        (∀ earlier ∈ before, ∀ other, ¬ Binds earlier.toList (Text.trim key.toList) other) ∧
        Binds line.toList (Text.trim key.toList) written ∧ Says written value.toList) ∧
    (∀ key lines, (Extraction.keyValue key).apply lines = .ok none ↔
      ∀ line ∈ lines, ∀ written, ¬ Binds line.toList (Text.trim key.toList) written) ∧
    (∀ key before line after name written, Binds line.toList name written →
      name ≠ Text.trim key.toList →
      (Extraction.keyValue key).apply (before ++ line :: after) =
        (Extraction.keyValue key).apply (before ++ after)) ∧
    ∀ (l : QuotedLine) before after, l.IsWellFormed →
      (∀ earlier ∈ before, ∀ other, ¬ Binds earlier.toList l.name other) →
      (Extraction.keyValue (String.ofList l.name)).apply
        (before ++ String.ofList l.text :: after) = .ok (some (String.ofList l.value)) := by
  refine ⟨fun key lines value => (Except.ok.injEq ..).to_iff.trans keyValue?_eq_some_iff,
    fun key lines => (Except.ok.injEq ..).to_iff.trans keyValue?_eq_none_iff,
    fun key before line after name written hbinds hname => ?_, fun l before after hl hbefore => ?_⟩
  · exact congrArg Except.ok (keyValue?_append_cons fun other hother =>
      hname (hbinds.unique hother).1)
  · refine congrArg Except.ok (keyValue?_eq_some_iff.mpr ⟨before, _, after, l.written, rfl, ?_⟩)
    rw [String.toList_ofList, String.toList_ofList, String.toList_ofList, hl.key.trimmed]
    exact ⟨hbefore, hl.binds, .inl ⟨l.quote, hl.quoted, rfl⟩⟩

/-- A quoted value with an `=` and the other quote in it, after a comment and an empty value, and in
front of another line of the key; and a longer name. -/
theorem first_binding_captured_quoted :
    let before := ["# KEY=a", "KEY ="]
    let l : QuotedLine := ⟨"KEY".toList, "x=\"".toList, '\'', [' '], [' '], [], ['\t']⟩
    l.IsWellFormed ∧ String.ofList l.text = " KEY ='x=\"'\t" ∧
    (Extraction.keyValue "KEY").apply (before ++ " KEY ='x=\"'\t" :: ["KEY=b"]) =
      .ok (some "x=\"") ∧
    (Extraction.keyValue "KEY").apply ([] ++ "KEY_2=a" :: ["KEY=b"]) =
      (Extraction.keyValue "KEY").apply ([] ++ ["KEY=b"]) := by
  intro before l
  have hl : l.IsWellFormed :=
    ⟨⟨by decide, by decide, by decide, by decide⟩, .inr rfl,
      List.forall_mem_singleton.mpr (by decide), List.forall_mem_singleton.mpr (by decide),
      List.forall_mem_nil _, List.forall_mem_singleton.mpr (by decide)⟩
  have hkey : Text.trim "KEY".toList = l.name := by decide
  have hbefore : ∀ earlier ∈ before, ∀ other, ¬ Binds earlier.toList l.name other := by
    have hnone := (first_binding_captured.2.1 "KEY" before).mp (by decide +kernel)
    rwa [hkey] at hnone
  have hlonger : Binds "KEY_2=a".toList "KEY_2".toList "a".toList :=
    @Binds.intro _ "KEY_2".toList "a".toList (by decide) (by decide) (by decide) (by decide)
      (by decide)
  refine ⟨hl, by decide, ?_, ?_⟩
  · exact first_binding_captured.2.2.2 l before ["KEY=b"] hl hbefore
  · exact first_binding_captured.2.2.1 "KEY" [] "KEY_2=a" ["KEY=b"] _ _ hlonger (by decide)

end Runbook.Extraction
