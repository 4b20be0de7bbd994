import Runbook.Proofs.RepairFrame
import Runbook.Proofs.Refusal

/-!
What guards and captures are read as. An object may carry several of the keys that say what it is;
the first of them in a fixed order decides, and the others are not looked at. Main statement: the
guards and the captures of an accepted workflow are just what the deciding keys of its document say.
-/

namespace Runbook

/-! ### Conditions -/

namespace Condition

inductive Key where
  | all | any | not | file | var | has | status | step | lastStep | choice
  deriving DecidableEq, Repr

def Key.name : Key → String
  | .all => "all"
  | .any => "any"
  | .not => "not"
  | .file => "file"
  | .var => "var"
  | .has => "has"
  | .status => "status"
  | .step => "step"
  | .lastStep => "last_step"
  | .choice => "choice"

def Key.order : List Key :=
  [.all, .any, .not, .file, .var, .has, .status, .step, .lastStep, .choice]

/-- The value that an object has for a key; a `var` that is null is none. -/
def carried? (fields : List (String × Document)) : Key → Option Document
  | .var => Document.present (Bindings.find? fields "var")
  | key => Bindings.find? fields key.name

/-- The key that decides what a condition object is, with its value. -/
def deciding? (fields : List (String × Document)) : Option (Key × Document) :=
  Key.order.findSome? fun key => (carried? fields key).map fun d => (key, d)

/-- What the value of a deciding key says by itself, other than of the keys with conditions in
them. -/
inductive ReadsValue : Key → Document → Condition → Prop where
  | file {path} : ReadsValue .file (.text path) (.fileExists path)
  | varName {name} : ReadsValue .var (.text name) (.varExists name)
  | varValues {fields expected} (h : List.Forall₂ (fun (field : String × Document) e =>
      field.1 = e.1 ∧ field.2.scalarText? = some e.2) fields expected) :
    ReadsValue .var (.object fields) (.varEquals expected)
  | has {name} : ReadsValue .has (.text name) (.hasVar name)
  | status {d fact name expected} (hfact : (d.field? "fact").bind Document.asText? = some fact)
      (hname : (d.field? "is").bind Document.asText? = some name)
      (hexpected : statusOf? name = some expected) :
    ReadsValue .status d (.factStatus fact expected)
  | step {d success} (h : (d.field? "success").bind Document.asBool? = some success) :
    ReadsValue .step d (.lastStep success)
  | lastSuccess : ReadsValue .lastStep (.text "success") (.lastStep true)
  | lastFailure : ReadsValue .lastStep (.text "failure") (.lastStep false)
  | choice {option} : ReadsValue .choice (.text option) (.choiceMade option)

mutual

/-- What a condition object says: what its deciding key says, whatever its other keys are. -/
inductive Reads : Document → Condition → Prop where
  | all {fields items cs} (hkey : deciding? fields = some (.all, .list items))
      (h : ReadsMembers items cs) : Reads (.object fields) (.all cs)
  | any {fields items cs} (hkey : deciding? fields = some (.any, .list items))
      (h : ReadsMembers items cs) : Reads (.object fields) (.any cs)
  | not {fields d c} (hkey : deciding? fields = some (.not, d)) (h : Reads d c) :
    Reads (.object fields) (.not c)
  | value {fields key d c} (hkey : deciding? fields = some (key, d)) (h : ReadsValue key d c) :
    Reads (.object fields) c

inductive ReadsMembers : List Document → List Condition → Prop where
  | nil : ReadsMembers [] []
  | cons {d c items cs} (h : Reads d c) (hrest : ReadsMembers items cs) :
    ReadsMembers (d :: items) (c :: cs)

end

variable {location : Location} {fields : List (String × Document)} {d : Document} {c : Condition}

theorem value_expectedValues {expected : Bindings String} :
    (expectedValues location fields).value = some expected ↔
      List.Forall₂ (fun (field : String × Document) e =>
        field.1 = e.1 ∧ field.2.scalarText? = some e.2) fields expected := by
  induction fields generalizing expected with
  | nil => simp [expectedValues, eq_comm]
  | cons field rest ih =>
    unfold expectedValues
    cases htext : field.2.scalarText? with
    | none =>
      constructor
      · intro h
        simp at h
      · rintro (_ | ⟨⟨_, hvalue⟩, _⟩)
        simp [htext] at hvalue
    | some text =>
      simp only [Checked.value_bind, ih, Checked.value_pure]
      constructor
      · rintro ⟨others, hothers, rfl⟩
        exact .cons ⟨rfl, htext⟩ hothers
      · rintro (_ | ⟨⟨hname, hvalue⟩, hothers⟩)
        rename_i e others
        refine ⟨others, hothers, ?_⟩
        rw [hname, Option.some.inj (htext.symm.trans hvalue)]

theorem value_ofText {make : String → Condition} {fault : Fault} :
    (ofText location make fault d).value = some c ↔ ∃ text, d = .text text ∧ make text = c := by
  cases d <;> simp [ofText, Document.asText?]

theorem value_ofVar : (ofVar location d).value = some c ↔ ReadsValue .var d c := by
  constructor
  · intro h
    cases d with
    | text name =>
      obtain rfl : Condition.varExists name = c := by simpa [ofVar] using h
      exact .varName
    | object fields =>
      obtain ⟨expected, hexpected, hc⟩ := Checked.value_bind.mp h
      obtain rfl := Checked.value_pure.mp hc
      exact .varValues (value_expectedValues.mp hexpected)
    | _ => simp [ofVar] at h
  · intro h
    cases h with
    | varName => rfl
    | varValues hexpected =>
      exact Checked.value_bind.mpr ⟨_, value_expectedValues.mpr hexpected, Checked.value_pure.mpr rfl⟩

theorem value_ofStatus : (ofStatus location d).value = some c ↔ ReadsValue .status d c := by
  unfold ofStatus
  constructor
  · intro h
    split at h
    · rename_i fact expected hfact hexpected
      obtain rfl : Condition.factStatus fact expected = c := by simpa using h
      obtain ⟨name, hname, hstatus⟩ := Option.bind_eq_some_iff.mp hexpected
      exact .status hfact hname hstatus
    · simp at h
  · rintro ⟨⟩
    rename_i hfact hname hexpected
    simp [hfact, hname, hexpected]

theorem value_ofStep : (ofStep location d).value = some c ↔ ReadsValue .step d c := by
  unfold ofStep
  constructor
  · intro h
    split at h
    · rename_i success hsuccess
      obtain rfl : Condition.lastStep success = c := by simpa using h
      exact .step hsuccess
    · simp at h
  · rintro ⟨⟩
    rename_i hsuccess
    simp [hsuccess]

theorem value_ofLastStep : (ofLastStep location d).value = some c ↔ ReadsValue .lastStep d c := by
  unfold ofLastStep
  constructor
  · intro h
    cases d with
    | text outcome =>
      simp only [Document.asText?, Option.some.injEq] at h
      split at h
      · rename_i heq
        obtain rfl : Condition.lastStep true = c := by simpa using h
        exact heq ▸ .lastSuccess
      split at h
      · rename_i heq
        obtain rfl : Condition.lastStep false = c := by simpa using h
        exact heq ▸ .lastFailure
      · simp at h
    | _ => simp [Document.asText?] at h
  · intro h
    cases h with
    | lastSuccess => simp [Document.asText?]
    | lastFailure => simp [Document.asText?]

theorem value_file : (ofText location .fileExists .fileNotPath d).value = some c ↔
    ReadsValue .file d c := by
  rw [value_ofText]
  constructor
  · rintro ⟨path, rfl, rfl⟩
    exact .file
  · rintro ⟨⟩
    exact ⟨_, rfl, rfl⟩

theorem value_has : (ofText location .hasVar .hasNotName d).value = some c ↔
    ReadsValue .has d c := by
  rw [value_ofText]
  constructor
  · rintro ⟨name, rfl, rfl⟩
    exact .has
  · rintro ⟨⟩
    exact ⟨_, rfl, rfl⟩

theorem value_choice : (ofText location .choiceMade .choiceNotOption d).value = some c ↔
    ReadsValue .choice d c := by
  rw [value_ofText]
  constructor
  · rintro ⟨option, rfl, rfl⟩
    exact .choice
  · rintro ⟨⟩
    exact ⟨_, rfl, rfl⟩

/-- Only the deciding key can be read. -/
theorem exists_deciding_iff {key : Key} (hkey : deciding? fields = some (key, d)) :
    (∃ key d, deciding? fields = some (key, d) ∧ ReadsValue key d c) ↔ ReadsValue key d c := by
  constructor
  · rintro ⟨key', d', hkey', h⟩
    obtain ⟨rfl, rfl⟩ := Prod.mk.inj (Option.some.inj (hkey.symm.trans hkey'))
    exact h
  · exact fun h => ⟨key, d, hkey, h⟩

theorem value_leaf (hall : Bindings.find? fields "all" = none)
    (hany : Bindings.find? fields "any" = none) (hnot : Bindings.find? fields "not" = none) :
    (leaf location fields).value = some c ↔
      ∃ key d, deciding? fields = some (key, d) ∧ ReadsValue key d c := by
  -- the keys are gone through in the order in which the check does
  have hdeciding : deciding? fields =
      [.file, .var, .has, .status, .step, .lastStep, .choice].findSome? fun key =>
        (carried? fields key).map fun d => (key, d) := by
    simp [deciding?, Key.order, carried?, Key.name, hall, hany, hnot]
  simp only [List.findSome?_cons, carried?, Key.name] at hdeciding
  unfold leaf
  cases hfile : Bindings.find? fields "file" with
  | some d =>
    simp only [hfile, Option.map_some] at hdeciding
    rw [exists_deciding_iff hdeciding, ← value_file]
  | none =>
  cases hvar : Document.present (Bindings.find? fields "var") with
  | some d =>
    simp only [hfile, hvar, Option.map_some, Option.map_none] at hdeciding
    rw [exists_deciding_iff hdeciding, ← value_ofVar]
  | none =>
  cases hhas : Bindings.find? fields "has" with
  | some d =>
    simp only [hfile, hvar, hhas, Option.map_some, Option.map_none] at hdeciding
    rw [exists_deciding_iff hdeciding, ← value_has]
  | none =>
  cases hstatus : Bindings.find? fields "status" with
  | some d =>
    simp only [hfile, hvar, hhas, hstatus, Option.map_some, Option.map_none] at hdeciding
    rw [exists_deciding_iff hdeciding, ← value_ofStatus]
  | none =>
  cases hstep : Bindings.find? fields "step" with
  | some d =>
    simp only [hfile, hvar, hhas, hstatus, hstep, Option.map_some, Option.map_none] at hdeciding
    rw [exists_deciding_iff hdeciding, ← value_ofStep]
  | none =>
  cases hlast : Bindings.find? fields "last_step" with
  | some d =>
    simp only [hfile, hvar, hhas, hstatus, hstep, hlast, Option.map_some, Option.map_none]
      at hdeciding
    rw [exists_deciding_iff hdeciding, ← value_ofLastStep]
  | none =>
  cases hchoice : Bindings.find? fields "choice" with
  | some d =>
    simp only [hfile, hvar, hhas, hstatus, hstep, hlast, hchoice, Option.map_some,
      Option.map_none] at hdeciding
    rw [exists_deciding_iff hdeciding, ← value_choice]
  | none =>
    simp only [hfile, hvar, hhas, hstatus, hstep, hlast, hchoice, Option.map_none,
      List.findSome?_nil] at hdeciding
    simp [hdeciding]

theorem carried?_of_deciding {key : Key} (h : deciding? fields = some (key, d)) :
    carried? fields key = some d := by
  obtain ⟨other, _, hother⟩ := List.exists_of_findSome?_eq_some h
  obtain ⟨value, hvalue, heq⟩ := Option.map_eq_some_iff.mp hother
  obtain ⟨rfl, rfl⟩ := Prod.mk.inj heq
  exact hvalue

theorem deciding?_all (h : Bindings.find? fields "all" = some d) :
    deciding? fields = some (.all, d) := by
  simp [deciding?, Key.order, carried?, Key.name, h]

theorem deciding?_any (hall : Bindings.find? fields "all" = none)
    (h : Bindings.find? fields "any" = some d) : deciding? fields = some (.any, d) := by
  simp [deciding?, Key.order, carried?, Key.name, hall, h]

theorem deciding?_not (hall : Bindings.find? fields "all" = none)
    (hany : Bindings.find? fields "any" = none) (h : Bindings.find? fields "not" = some d) :
    deciding? fields = some (.not, d) := by
  simp [deciding?, Key.order, carried?, Key.name, hall, hany, h]

theorem reads_all_iff (hkey : deciding? fields = some (.all, d)) : Reads (.object fields) c ↔
    ∃ items cs, d = .list items ∧ ReadsMembers items cs ∧ .all cs = c := by
  constructor
  · rintro (⟨hother, h⟩ | ⟨hother, h⟩ | ⟨hother, h⟩ | ⟨hother, ⟨⟩⟩) <;>
      obtain ⟨hsame, rfl⟩ := Prod.mk.inj (Option.some.inj (hkey.symm.trans hother)) <;>
      cases hsame
    exact ⟨_, _, rfl, h, rfl⟩
  · rintro ⟨items, cs, rfl, h, rfl⟩
    exact .all hkey h

theorem reads_any_iff (hkey : deciding? fields = some (.any, d)) : Reads (.object fields) c ↔
    ∃ items cs, d = .list items ∧ ReadsMembers items cs ∧ .any cs = c := by
  constructor
  · rintro (⟨hother, h⟩ | ⟨hother, h⟩ | ⟨hother, h⟩ | ⟨hother, ⟨⟩⟩) <;>
      obtain ⟨hsame, rfl⟩ := Prod.mk.inj (Option.some.inj (hkey.symm.trans hother)) <;>
      cases hsame
    exact ⟨_, _, rfl, h, rfl⟩
  · rintro ⟨items, cs, rfl, h, rfl⟩
    exact .any hkey h

theorem reads_not_iff (hkey : deciding? fields = some (.not, d)) : Reads (.object fields) c ↔
    ∃ inner, Reads d inner ∧ .not inner = c := by
  constructor
  · rintro (⟨hother, h⟩ | ⟨hother, h⟩ | ⟨hother, h⟩ | ⟨hother, ⟨⟩⟩) <;>
      obtain ⟨hsame, rfl⟩ := Prod.mk.inj (Option.some.inj (hkey.symm.trans hother)) <;>
      cases hsame
    exact ⟨_, h, rfl⟩
  · rintro ⟨inner, h, rfl⟩
    exact .not hkey h

theorem reads_leaf_iff (hall : Bindings.find? fields "all" = none)
    (hany : Bindings.find? fields "any" = none) (hnot : Bindings.find? fields "not" = none) :
    Reads (.object fields) c ↔ ∃ key d, deciding? fields = some (key, d) ∧ ReadsValue key d c := by
  constructor
  · intro h
    cases h with
    | all hkey _ => exact absurd (carried?_of_deciding hkey) (by simp [carried?, Key.name, hall])
    | any hkey _ => exact absurd (carried?_of_deciding hkey) (by simp [carried?, Key.name, hany])
    | not hkey _ => exact absurd (carried?_of_deciding hkey) (by simp [carried?, Key.name, hnot])
    | value hkey h => exact ⟨_, _, hkey, h⟩
  · rintro ⟨key, d, hkey, h⟩
    exact .value hkey h

theorem check_of_deciding_none (h : deciding? fields = none) : check location (.object fields) =
    .issue (.conditionUnknown (Bindings.names fields)) location := by
  have hnone : ∀ key, carried? fields key = none := by
    intro key
    have hkeys := List.findSome?_eq_none_iff.mp h key (by cases key <;> decide)
    simpa using hkeys
  have hall : Bindings.find? fields "all" = none := hnone .all
  have hany : Bindings.find? fields "any" = none := hnone .any
  have hnot : Bindings.find? fields "not" = none := hnone .not
  have hfile : Bindings.find? fields "file" = none := hnone .file
  have hvar : Document.present (Bindings.find? fields "var") = none := hnone .var
  have hhas : Bindings.find? fields "has" = none := hnone .has
  have hstatus : Bindings.find? fields "status" = none := hnone .status
  have hstep : Bindings.find? fields "step" = none := hnone .step
  have hlast : Bindings.find? fields "last_step" = none := hnone .lastStep
  have hchoice : Bindings.find? fields "choice" = none := hnone .choice
  have hleaf : leaf location fields = .issue (.conditionUnknown (Bindings.names fields)) location := by
    simp [leaf, hfile, hvar, hhas, hstatus, hstep, hlast, hchoice]
  rw [check]
  split
  · rename_i hsome
    simp [hall] at hsome
  · rename_i hsome
    simp [hall] at hsome
  split
  · rename_i hsome
    simp [hany] at hsome
  · rename_i hsome
    simp [hany] at hsome
  split
  · rename_i hsome
    simp [hnot] at hsome
  · exact hleaf

mutual

/-- The check of a condition finds just what the document says. -/
theorem value_check (d : Document) {c : Condition} :
    (check location d).value = some c ↔ Reads d c := by
  cases d with
  | object fields =>
    rw [check]
    split
    · rename_i items hall
      have hlt := Document.sizeOf_items_lt hall
      rw [reads_all_iff (deciding?_all hall), Checked.value_bind]
      simp [value_checkMembers items]
    · rename_i d hlist hall
      rw [reads_all_iff (deciding?_all hall)]
      constructor
      · intro h
        simp at h
      · rintro ⟨items, _, hitems, _⟩
        exact (hlist items hitems).elim
    rename_i hall
    split
    · rename_i items hany
      have hlt := Document.sizeOf_items_lt hany
      rw [reads_any_iff (deciding?_any hall hany), Checked.value_bind]
      simp [value_checkMembers items]
    · rename_i d hlist hany
      rw [reads_any_iff (deciding?_any hall hany)]
      constructor
      · intro h
        simp at h
      · rintro ⟨items, _, hitems, _⟩
        exact (hlist items hitems).elim
    rename_i hany
    split
    · rename_i inner hnot
      have hlt := Document.sizeOf_field_lt hnot
      rw [reads_not_iff (deciding?_not hall hany hnot), Checked.value_bind]
      simp [value_check inner]
    · rename_i hnot
      rw [reads_leaf_iff hall hany hnot, value_leaf hall hany hnot]
  | _ =>
    rw [check]
    · constructor
      · intro h
        simp at h
      · rintro ⟨⟩
    · simp
termination_by sizeOf d
decreasing_by all_goals exact hlt

theorem value_checkMembers (items : List Document) {cs : List Condition} :
    (checkMembers location items).value = some cs ↔ ReadsMembers items cs := by
  cases items with
  | nil =>
    rw [checkMembers]
    constructor
    · intro h
      obtain rfl : [] = cs := by simpa using h
      exact .nil
    · rintro ⟨⟩
      rfl
  | cons d rest =>
    rw [checkMembers, Checked.value_bind]
    simp only [value_check d, Checked.value_bind, value_checkMembers rest, Checked.value_pure]
    constructor
    · rintro ⟨c, hc, others, hothers, rfl⟩
      exact .cons hc hothers
    · rintro ⟨⟩
      rename_i c others hc hothers
      exact ⟨c, hc, others, hothers, rfl⟩
termination_by sizeOf items

end

end Condition

/-! ### Captures -/

namespace Extraction

/-- The keys that say what a capture rule takes, in the order in which they decide. -/
def keys : List String := ["regex", "json", "yaml", "yml", "kv", "after", "before", "line"]

def deciding? (fields : Fields) : Option String := keys.find? fields.has

/-- What a capture rule takes: what its deciding key says, together with `before` if that is
`after`; all lines if it has no key of this kind. -/
inductive Reads (fields : Fields) : Extraction → Prop where
  | full (hkey : deciding? fields = none) : Reads fields .full
  | pattern {regex} (hkey : deciding? fields = some "regex")
      (h : fields.get? "regex" = some (.text regex)) : Reads fields (.pattern regex)
  | jsonPath {path} (hkey : deciding? fields = some "json")
      (h : fields.get? "json" = some (.text path)) : Reads fields (.jsonPath path)
  | yamlPath {key path} (hname : key = "yaml" ∨ key = "yml") (hkey : deciding? fields = some key)
      (h : fields.get? key = some (.text path)) : Reads fields (.yamlPath path)
  | keyValue {key} (hkey : deciding? fields = some "kv")
      (h : fields.get? "kv" = some (.text key)) : Reads fields (.keyValue key)
  | between {opening closing} (hkey : deciding? fields = some "after")
      (hopening : fields.get? "after" = some (.text opening))
      (hclosing : fields.get? "before" = some (.text closing)) :
    Reads fields (.between opening closing)
  | after {marker} (hkey : deciding? fields = some "after")
      (h : fields.get? "after" = some (.text marker)) (hbefore : fields.has "before" = false) :
    Reads fields (.after marker)
  | before {marker} (hkey : deciding? fields = some "before")
      (h : fields.get? "before" = some (.text marker)) : Reads fields (.before marker)
  | lines {range first last} (hkey : deciding? fields = some "line")
      (h : fields.get? "line" = some range)
      (hfirst : (range.field? "from").bind Document.asFloat? = some first)
      (hlast : (range.field? "to").bind Document.asFloat? = some last) :
    Reads fields (.lines (RunStep.boundOf first) (RunStep.boundOf last))

end Extraction

def CaptureRule.Reads (d : Document) (rule : CaptureRule) : Prop :=
  ∃ fields, d = .object fields ∧ trimmedText? (Fields.get? fields "as") = some rule.variableName ∧
    rule.extraction.Reads fields

namespace RunStep

variable {fields : Fields} {index : Nat} {location : Location}

theorem value_captureText {key text : String}
    (h : (captureText fields index key location).value = some text) :
    fields.get? key = some (.text text) := by
  unfold captureText at h
  split at h
  · rename_i found hfound
    obtain rfl : found = text := by simpa using h
    exact hfound
  · simp at h
  · simp [Checked.ofOption] at h

theorem value_extraction {make : String → Extraction} {key : String} {e : Extraction}
    (h : (do return make (← captureText fields index key location) : Checked Extraction).value =
      some e) : ∃ text, fields.get? key = some (.text text) ∧ make text = e := by
  obtain ⟨text, htext, he⟩ := Checked.value_bind.mp h
  exact ⟨text, value_captureText htext, Checked.value_pure.mp he⟩

theorem reads_of_extractionOf {e : Extraction}
    (h : (extractionOf fields index location).value = some e) : e.Reads fields := by
  unfold extractionOf at h
  dsimp only at h
  split at h
  · obtain ⟨regex, htext, rfl⟩ := value_extraction h
    exact .pattern (by simp [Extraction.deciding?, Extraction.keys, *]) htext
  split at h
  · obtain ⟨path, htext, rfl⟩ := value_extraction h
    exact .jsonPath (by simp [Extraction.deciding?, Extraction.keys, *]) htext
  split at h
  · obtain ⟨path, htext, rfl⟩ := value_extraction h
    exact .yamlPath (.inl rfl) (by simp [Extraction.deciding?, Extraction.keys, *]) htext
  split at h
  · obtain ⟨path, htext, rfl⟩ := value_extraction h
    exact .yamlPath (.inr rfl) (by simp [Extraction.deciding?, Extraction.keys, *]) htext
  split at h
  · obtain ⟨key, htext, rfl⟩ := value_extraction h
    exact .keyValue (by simp [Extraction.deciding?, Extraction.keys, *]) htext
  split at h
  · rename_i hboth
    obtain ⟨hafter, _⟩ := Bool.and_eq_true_iff.mp hboth
    obtain ⟨opening, hopening, hclosing⟩ := Checked.value_bind.mp h
    obtain ⟨closing, htext, rfl⟩ := value_extraction hclosing
    exact .between (by simp [Extraction.deciding?, Extraction.keys, *])
      (value_captureText hopening) htext
  split at h
  · rename_i hboth hafter
    obtain ⟨marker, htext, rfl⟩ := value_extraction h
    exact .after (by simp [Extraction.deciding?, Extraction.keys, *]) htext
      (by simpa [hafter] using hboth)
  split at h
  · obtain ⟨marker, htext, rfl⟩ := value_extraction h
    exact .before (by simp [Extraction.deciding?, Extraction.keys, *]) htext
  split at h
  · rename_i range hrange
    have hline : fields.has "line" = true := Option.isSome_of_eq_some hrange
    split at h
    · rename_i hfrom hto
      obtain ⟨first, hfirst, rfl⟩ := Option.map_eq_some_iff.mp hfrom
      obtain ⟨last, hlast, rfl⟩ := Option.map_eq_some_iff.mp hto
      obtain rfl := Checked.value_pure.mp h
      exact .lines (by simp [Extraction.deciding?, Extraction.keys, *]) hrange hfirst hlast
    · simp at h
  · rename_i hrange
    have hline : fields.has "line" = false :=
      Option.isSome_eq_false_iff.mpr (Option.isNone_iff_eq_none.mpr
        (Option.eq_none_iff_forall_ne_some.mpr fun range h => hrange range h))
    obtain rfl := Checked.value_pure.mp h
    exact .full (by simp [Extraction.deciding?, Extraction.keys, *])

theorem reads_of_captureOf {d : Document} {rule : CaptureRule}
    (h : (captureOf location index d).value = some rule) : rule.Reads d := by
  unfold captureOf at h
  split at h
  · rename_i fields
    split at h
    · simp at h
    · rename_i name hname
      obtain ⟨e, he, hrule⟩ := Checked.value_bind.mp h
      obtain rfl := Checked.value_pure.mp hrule
      exact ⟨fields, rfl, hname, reads_of_extractionOf he⟩
  · simp at h

end RunStep

def CapturesRead (item : Document) (rules : List CaptureRule) : Prop :=
  (Document.present (item.field? "captures") = none ∧ rules = []) ∨
    ∃ items, item.field? "captures" = some (.list items) ∧
      List.Forall₂ CaptureRule.Reads items rules

/-- The guard that a step writes. -/
def GuardRead (item : Document) : Option Condition → Prop
  | none => Document.present (item.field? "when") = none
  | some c => ∃ d, item.field? "when" = some d ∧ Condition.Reads d c

def Action.Reads (item : Document) : Action → Prop
  | .run step => CapturesRead item step.captures
  | _ => True

def Branch.Reads (item : Document) (b : Branch) : Prop :=
  GuardRead item b.guard ∧ b.action.Reads item

/-- The guards and the captures that a step writes, those of its branches among them. -/
def Step.Reads (item : Document) (step : Step) : Prop :=
  GuardRead item step.guard ∧
    match step.body with
    | .action action => action.Reads item
    | .parallel branches => ∃ items, item.field? "parallel" = some (.list items) ∧
      List.Forall₂ Branch.Reads items branches

section Reading

variable {fields : Fields} {location : Location}

theorem guardRead_of_guardOf {guard : Option Condition}
    (h : (guardOf fields location).value = some guard) : GuardRead (.object fields) guard := by
  unfold guardOf at h
  split at h
  · rename_i hnone
    obtain rfl : none = guard := by simpa using h
    exact hnone
  · rename_i d hd
    obtain ⟨c, hc, hguard⟩ := Checked.value_bind.mp h
    obtain rfl := Checked.value_pure.mp hguard
    exact ⟨d, Document.eq_some_of_present hd, (Condition.value_check d).mp hc⟩

theorem capturesRead_of_check {step : RunStep}
    (h : (RunStep.check fields location).value = some step) :
    CapturesRead (.object fields) step.captures := by
  have hcaptures := (RunStep.found_of_check h).captures
  unfold RunStep.capturesOf at hcaptures
  split at hcaptures
  · rename_i hnone
    exact .inl ⟨hnone, (by simpa using hcaptures.symm)⟩
  · rename_i items hitems
    exact .inr ⟨items, Document.eq_some_of_present hitems,
      Checked.forall₂_of_mapIdx (P := CaptureRule.Reads) (fun _ _ _ => RunStep.reads_of_captureOf)
        (Checked.value_all.mp hcaptures)⟩
  · simp at hcaptures

theorem Branch.reads_of_check {step branch : Nat} {d : Document} {b : Branch}
    (h : (Branch.check step branch d).value = some b) : b.Reads d := by
  obtain ⟨fields, kind, rfl, _, hguard, hfound⟩ := Branch.found_of_check h
  refine ⟨guardRead_of_guardOf hguard, ?_⟩
  generalize b.action = action at hfound ⊢
  cases hfound with
  | run hrun => exact capturesRead_of_check hrun
  | fail _ => trivial

theorem reads_of_branchesOf {d : Option Document} {index : Nat} {branches : List Branch}
    (h : (branchesOf d index).value = some branches) :
    ∃ items, d = some (.list items) ∧ List.Forall₂ Branch.Reads items branches := by
  unfold branchesOf at h
  split at h
  · simp at h
  · rename_i items _
    exact ⟨items, rfl, Checked.forall₂_of_mapIdx (P := Branch.Reads)
      (fun _ _ _ => Branch.reads_of_check) (Checked.value_all.mp h)⟩
  · simp at h

theorem Step.reads_of_check {index : Nat} {d : Document} {step : Step}
    (h : (Step.check index d).value = some step) : step.Reads d := by
  obtain ⟨fields, kind, rfl, _, hguard, hfound⟩ := Step.found_of_check h
  refine ⟨guardRead_of_guardOf hguard, ?_⟩
  generalize step.body = body at hfound ⊢
  cases hfound with
  | run hrun => exact capturesRead_of_check hrun
  | parallel hbranches => exact reads_of_branchesOf hbranches
  | choose _ => trivial
  | prompt _ => trivial
  | fail _ => trivial

/-! ### Repaired documents -/

theorem GuardRead.of_repaired {item : Document} {guard : Option Condition}
    (h : GuardRead (Repair.step item) guard) : GuardRead item guard := by
  have hwhen := Repair.field?_step item "when" (by decide)
  cases guard with
  | none => exact (congrArg _ hwhen).symm.trans h
  | some c => simpa only [GuardRead, hwhen] using h

theorem Action.Reads.of_repaired {item : Document} {action : Action}
    (h : action.Reads (Repair.step item)) : action.Reads item := by
  cases action with
  | run step =>
    have hcaptures := Repair.field?_step item "captures" (by decide)
    simpa only [Action.Reads, CapturesRead, hcaptures] using h
  | _ => trivial

theorem Branch.Reads.of_repaired {item : Document} {b : Branch} (h : b.Reads (Repair.step item)) :
    b.Reads item :=
  ⟨h.1.of_repaired, h.2.of_repaired⟩

theorem kind_eq_of_has {kind other : String} (h : (kindOf fields location).value = some kind)
    (hother : other ∈ stepKinds) (hhas : fields.has other = true) : other = kind := by
  unfold kindOf at h
  split at h
  · rename_i only honly
    obtain rfl : only = kind := by simpa using h
    have hmem : other ∈ stepKinds.filter fields.has := List.mem_filter.mpr ⟨hother, hhas⟩
    simpa [honly] using hmem
  · simp at h
  · simp at h

theorem parallel_of_repaired {item : Document} {index : Nat} {step : Step}
    (h : (Step.check index (Repair.step item)).value = some step) {items : List Document}
    (hitems : (Repair.step item).field? "parallel" = some (.list items)) :
    ∃ original, item.field? "parallel" = some (.list original) ∧
      items = original.map Repair.step := by
  cases item with
  | object fields =>
    rw [Repair.step] at h hitems
    -- a step that was repaired itself has a kind of its own, so it is no parallel step
    have single : ∀ (key : String) (names : List String), key ∈ stepKinds → key ≠ "parallel" →
        (Step.check index (.object (Repair.nestUnder key names fields))).value = some step →
        Document.field? (.object (Repair.nestUnder key names fields)) "parallel" ≠
          some (.list items) := by
      intro key names hkey hne hcheck hparallel
      obtain ⟨kind, hkind, _⟩ := Checked.value_bind.mp hcheck
      have hown := kind_eq_of_has hkind hkey (Repair.isBound_nestUnder key names fields)
      have hother := kind_eq_of_has hkind (by decide : "parallel" ∈ stepKinds)
        (Option.isSome_of_eq_some hparallel)
      exact hne (hown.trans hother.symm)
    split at h
    · rename_i hchoose
      rw [if_pos hchoose] at hitems
      exact absurd hitems (single "choose" _ (by decide) (by decide) h)
    · rename_i hchoose
      rw [if_neg hchoose] at hitems
      split at h
      · rename_i hprompt
        rw [if_pos hprompt] at hitems
        exact absurd hitems (single "prompt" _ (by decide) (by decide) h)
      · rename_i hprompt
        rw [if_neg hprompt] at hitems
        simp only [Document.field?, Repair.find?_branches, if_true] at hitems ⊢
        obtain ⟨value, hvalue, hlist⟩ := Option.map_eq_some_iff.mp hitems
        cases value with
        | list original =>
          refine ⟨original, hvalue, ?_⟩
          rw [← Repair.steps_eq_map]
          exact (Document.list.inj hlist).symm
        | _ => simp [Repair.branchList] at hlist
  | _ => simp [Repair.step, Document.field?] at hitems

theorem Step.reads_of_repaired {item : Document} {index : Nat} {step : Step}
    (h : (Step.check index (Repair.step item)).value = some step) : step.Reads item := by
  obtain ⟨hguard, hbody⟩ := Step.reads_of_check h
  refine ⟨hguard.of_repaired, ?_⟩
  split at hbody
  · exact hbody.of_repaired
  · obtain ⟨items, hitems, hbranches⟩ := hbody
    obtain ⟨original, horiginal, rfl⟩ := parallel_of_repaired h hitems
    rw [List.forall₂_map_left_iff] at hbranches
    exact ⟨original, horiginal, hbranches.imp fun _ _ => Branch.Reads.of_repaired⟩

end Reading

/-! ### Workflows -/

namespace Workflow

/-- The guards and the captures of a workflow, step by step, are what the deciding keys of its
document say; a document without such a workflow is refused with an issue, as is a condition that
has no key of conditions. -/
theorem guards_and_captures_read (d : Document) :
    (∀ w, ofDocument d = .ok w → ∃ items, d.field? "steps" = some (.list items) ∧
      List.Forall₂ Step.Reads items w.steps) ∧
    (∀ e, ofDocument d = .error e → ∃ first rest, e = .validation (first :: rest)) ∧
    ∀ location fields, Condition.deciding? fields = none →
      Condition.check location (.object fields) =
        .issue (.conditionUnknown (Bindings.names fields)) location := by
  refine ⟨fun w hw => ?_, fun e he => issues_of_ofDocument he, fun location fields hkey => ?_⟩
  · obtain ⟨repaired, _, hrepaired, hsteps⟩ := steps_of_check (check_of_ofDocument hw).1
    obtain ⟨items, hitems, rfl⟩ := Repair.steps_of_document hrepaired
    refine ⟨items, hitems, ?_⟩
    have hread := Checked.forall₂_of_mapIdx
      (P := fun item step => ∃ index, (Step.check index item).value = some step)
      (fun i _ _ h => ⟨i, h⟩) hsteps
    rw [List.forall₂_map_left_iff] at hread
    exact hread.imp fun _ _ ⟨_, h⟩ => Step.reads_of_repaired h
  · exact Condition.check_of_deciding_none hkey

def twoKeysFields : Fields :=
  [("run", .text "x"), ("when", .object [("choice", .text "b"), ("has", .text "a")])]

def twoKeysStep : Step :=
  ⟨some (.hasVar "a"), .action (.run ⟨"x", none, .never, none, false, [], []⟩)⟩

def twoKeysDocument : Document := .object [("steps", .list [.object twoKeysFields])]

def twoKeys : Workflow := ⟨none, none, none, [], [twoKeysStep], ⟨none, none, []⟩⟩

theorem check_twoKeysFields : Step.check 0 (.object twoKeysFields) = .found twoKeysStep := by
  have hcondition : Condition.check (.step 0)
      (.object [("choice", .text "b"), ("has", .text "a")]) = .found (.hasVar "a") := by
    rw [Condition.check]
    simp [Bindings.find?, Condition.leaf, Document.present, Condition.ofText, Document.asText?]
  have hguard : guardOf twoKeysFields (.step 0) = .found (some (.hasVar "a")) := by
    change (do return some (← Condition.check _ _) : Checked _) = _
    rw [hcondition]
    rfl
  unfold Step.check
  dsimp only
  rw [hguard]
  rfl

theorem ofDocument_twoKeysDocument : ofDocument twoKeysDocument = .ok twoKeys := by
  have hsteps : stepsOf (some (.list [.object twoKeysFields])) = .found [twoKeysStep] := by
    change Checked.all [Step.check 0 _] = _
    rw [check_twoKeysFields]
    rfl
  have hcheck : check twoKeysDocument = .found twoKeys := by
    unfold check twoKeysDocument
    dsimp only
    have hget : Fields.get? [("steps", .list [.object twoKeysFields])] "steps" =
      some (.list [.object twoKeysFields]) := rfl
    rw [hget, hsteps]
    rfl
  have hrepair : Repair.document twoKeysDocument = twoKeysDocument := rfl
  rw [ofDocument, hrepair, hcheck]
  rfl

theorem guards_and_captures_read_twoKeys :
    (ofDocument twoKeysDocument = .ok twoKeys ∧
      ∃ items, twoKeysDocument.field? "steps" = some (.list items) ∧
        List.Forall₂ Step.Reads items twoKeys.steps) ∧
    (ofDocument .null = .error (.validation [⟨.notAnObject, .root⟩]) ∧
      ∃ first rest, WorkflowError.validation [⟨.notAnObject, .root⟩] =
        .validation (first :: rest)) ∧
    Condition.deciding? [("nothing", .null)] = none ∧
      Condition.check .root (.object [("nothing", .null)]) =
        .issue (.conditionUnknown ["nothing"]) .root :=
  ⟨⟨ofDocument_twoKeysDocument,
      (guards_and_captures_read twoKeysDocument).1 twoKeys ofDocument_twoKeysDocument⟩,
    ⟨rfl, (guards_and_captures_read .null).2.1 _ rfl⟩,
    rfl, (guards_and_captures_read .null).2.2 .root [("nothing", .null)] rfl⟩

/-- The guard has a choice as well, which the condition does not ask for. -/
theorem second_key_not_read : ofDocument twoKeysDocument = .ok twoKeys ∧
    twoKeysFields.get? "when" = some (.object [("choice", .text "b"), ("has", .text "a")]) ∧
    twoKeys.steps.map Step.guard = [some (.hasVar "a")] :=
  ⟨ofDocument_twoKeysDocument, rfl, rfl⟩

end Workflow

end Runbook
