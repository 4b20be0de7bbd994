import Mathlib.Data.List.Perm.Basic
import Runbook.Proofs.Compositionality

/-!
Laws of repair. Main statement: repair leaves a document alone that can be checked as it is; it only
moves fields of a step under the step's own empty key; where each step has one kind it does nothing
the second time; and it gives a document back from which choices and prompts lost their indentation.
-/

namespace Runbook

namespace Bindings

variable {α κ : Type} [DecidableEq κ] [LT κ] [DecidableLT κ] [LE κ] [Std.IsLinearOrder κ]
  [Std.LawfulOrderLT κ] {m n : Bindings α κ} {name : κ} {value : α}

omit [DecidableLT κ] in
theorem Sorted.ext (hm : m.Sorted) (hn : n.Sorted) (h : ∀ name, m.find? name = n.find? name) :
    m = n := by
  have hmem : ∀ e, e ∈ m ↔ e ∈ n := by
    rintro ⟨name, value⟩
    rw [← hm.find?_eq_some_iff, ← hn.find?_eq_some_iff, h]
  have hdistinct : ∀ l : Bindings α κ, l.Sorted → l.Nodup := fun l hl =>
    List.Pairwise.imp (fun hlt heq => by
      rw [heq] at hlt
      exact Std.lt_irrefl hlt) hl
  have hperm : m.Perm n := (List.perm_ext_iff_of_nodup (hdistinct m hm) (hdistinct n hn)).2 hmem
  exact hperm.eq_of_pairwise
    (fun a b _ _ hab hba => absurd (Std.lt_trans hab hba) Std.lt_irrefl) hm hn

theorem Sorted.eq_bind (hm : m.Sorted) (hn : n.Sorted) (hname : m.find? name = some value)
    (hother : ∀ other, other ≠ name → m.find? other = n.find? other) : m = n.bind name value := by
  refine hm.ext (hn.bind name value) fun other => ?_
  rw [find?_bind]
  by_cases h : name = other
  · rw [if_pos h, ← h, hname]
  · rw [if_neg h, hother other (Ne.symm h)]

theorem Sorted.bind_eq_self (hm : m.Sorted) (hname : m.find? name = some value) :
    m.bind name value = m :=
  (hm.eq_bind hm hname fun _ _ => rfl).symm

omit [LT κ] [DecidableLT κ] [LE κ] [Std.IsLinearOrder κ] [Std.LawfulOrderLT κ] in
theorem find?_filter_names (m : Bindings α κ) (names : List κ) (name : κ) :
    Bindings.find? (m.filter fun entry => names.contains entry.1) name =
      if name ∈ names then m.find? name else none := by
  split
  · rename_i h
    exact find?_filter fun _ => by simpa using h
  · rename_i h
    exact find?_filter_eq_none fun _ => by simpa using h

end Bindings

namespace Repair

/-! ### The fields of a repaired step -/

theorem names_branches (fields : List (String × Document)) :
    Bindings.names (branches fields) = Bindings.names fields := by
  induction fields with
  | nil => simp [branches]
  | cons field rest ih =>
    obtain ⟨name, d⟩ := field
    simp only [Bindings.names] at ih ⊢
    cases d <;> simp [branches, ih]

theorem sorted_of_names {fields fields' : List (String × Document)}
    (h : Bindings.names fields' = Bindings.names fields) (hsorted : Bindings.Sorted fields) :
    Bindings.Sorted fields' := by
  have hnames : (Bindings.names fields).Pairwise (· < ·) := List.pairwise_map.2 hsorted
  rw [← h] at hnames
  exact List.pairwise_map.1 hnames

theorem branches_eq_bind {fields : List (String × Document)} {items : List Document}
    (hsorted : Bindings.Sorted fields)
    (h : Bindings.find? fields "parallel" = some (.list items)) :
    branches fields = Bindings.bind fields "parallel" (.list (items.map step)) := by
  refine Bindings.Sorted.eq_bind (sorted_of_names (names_branches fields) hsorted) hsorted ?_ ?_
  · simp [find?_branches, h, branchList, steps_eq_map]
  · intro other hother
    simp [find?_branches, hother]

theorem branches_eq_self {fields : List (String × Document)} (hsorted : Bindings.Sorted fields)
    (h : ∀ items, Bindings.find? fields "parallel" = some (.list items) →
      ∀ d ∈ items, step d = d) : branches fields = fields := by
  refine (sorted_of_names (names_branches fields) hsorted).ext hsorted fun name => ?_
  rw [find?_branches]
  cases hfield : Bindings.find? fields name with
  | none => rfl
  | some d =>
    by_cases hname : name = "parallel"
    · subst hname
      cases d with
      | list items => simp [branchList, steps_eq_map, List.map_congr_left (h items hfield)]
      | _ => rfl
    · simp [hname]

theorem sorted_nestUnder {fields : List (String × Document)} (hsorted : Bindings.Sorted fields)
    (key : String) (names : List String) : Bindings.Sorted (nestUnder key names fields) := by
  unfold nestUnder takeFields
  rw [List.partition_eq_filter_filter]
  exact Bindings.Sorted.bind (hsorted.filter _) key _

theorem find?_nestUnder_key (key : String) (names : List String)
    (fields : List (String × Document)) : Bindings.find? (nestUnder key names fields) key =
      some (.object (fields.filter fun field => names.contains field.1)) := by
  unfold nestUnder takeFields
  rw [List.partition_eq_filter_filter]
  exact Bindings.find?_bind_self ..

theorem find?_nestUnder_name {key name : String} {names : List String}
    (fields : List (String × Document)) (hkey : key ≠ name) (hname : name ∈ names) :
    Bindings.find? (nestUnder key names fields) name = none := by
  unfold nestUnder takeFields
  rw [List.partition_eq_filter_filter]
  change Bindings.find? (Bindings.bind _ key _) name = _
  rw [Bindings.find?_bind_of_ne _ hkey]
  exact Bindings.find?_filter_eq_none fun _ => by simpa using hname

/-! ### The two shapes of a step that lost an indentation -/

/-- A key that repair fills, the names that it moves there, and those that must be there for it. -/
inductive Shape : String → List String → List String → Prop where
  | choose : Shape "choose" chooseNames ["message", "options"]
  | prompt : Shape "prompt" promptNames ["message", "as"]

def isBroken (key : String) (required : List String) (fields : List (String × Document)) : Bool :=
  isNullField fields key && required.all (Bindings.isBound fields)

theorem isBroken_choose (fields : List (String × Document)) :
    isBrokenChoose fields = isBroken "choose" ["message", "options"] fields := by
  simp [isBrokenChoose, isBroken, Bool.and_assoc]

theorem isBroken_prompt (fields : List (String × Document)) :
    isBrokenPrompt fields = isBroken "prompt" ["message", "as"] fields := by
  simp [isBrokenPrompt, isBroken, Bool.and_assoc]

theorem isNullField_iff {fields : List (String × Document)} {name : String} :
    isNullField fields name = true ↔ Bindings.find? fields name = some .null := by
  unfold isNullField
  split
  · simp [*]
  · rename_i h
    simpa using h

theorem isBroken_iff {key : String} {required : List String} {fields : List (String × Document)} :
    isBroken key required fields = true ↔ Bindings.find? fields key = some .null ∧
      ∀ name ∈ required, Bindings.isBound fields name = true := by
  rw [isBroken, Bool.and_eq_true, isNullField_iff, List.all_eq_true]

/-- What repair does to a step is one of three things. -/
theorem step_object (fields : List (String × Document)) :
    (∃ key names required, Shape key names required ∧ isBroken key required fields = true ∧
      step (.object fields) = .object (nestUnder key names fields)) ∨
    (∀ key names required, Shape key names required → isBroken key required fields = false) ∧
      step (.object fields) = .object (branches fields) := by
  rw [step]
  split
  · rename_i h
    exact .inl ⟨_, _, _, .choose, by rw [← isBroken_choose, h], rfl⟩
  rename_i hchoose
  split
  · rename_i h
    exact .inl ⟨_, _, _, .prompt, by rw [← isBroken_prompt, h], rfl⟩
  rename_i hprompt
  refine .inr ⟨fun key names required hshape => ?_, rfl⟩
  cases hshape with
  | choose => rw [← isBroken_choose, Bool.eq_false_iff.2 hchoose]
  | prompt => rw [← isBroken_prompt, Bool.eq_false_iff.2 hprompt]

/-- A step without a broken shape, and with nothing to repair in its branches, stays as it is. -/
theorem step_eq_self {fields : List (String × Document)} (hsorted : Bindings.Sorted fields)
    (hshapes : ∀ key names required, Shape key names required → isBroken key required fields = false)
    (hbranches : ∀ items, Bindings.find? fields "parallel" = some (.list items) →
      ∀ d ∈ items, step d = d) : step (.object fields) = .object fields := by
  rcases step_object fields with ⟨key, names, required, hshape, hbroken, -⟩ | ⟨-, hstep⟩
  · rw [hshapes key names required hshape] at hbroken
    cases hbroken
  · rw [hstep, branches_eq_self hsorted hbranches]

/-- A property of the fields of a step, of all its branches, and of their branches. -/
inductive Throughout (P : List (String × Document) → Prop) : Document → Prop where
  | other {d : Document} (h : d.asObject? = none) : Throughout P d
  | object {fields : List (String × Document)} (h : P fields)
      (hbranches : ∀ items, Bindings.find? fields "parallel" = some (.list items) →
        ∀ d ∈ items, Throughout P d) : Throughout P (.object fields)

theorem throughout_of_forall {P : List (String × Document) → Prop} (h : ∀ fields, P fields)
    (d : Document) : Throughout P d := by
  cases d with
  | object fields =>
    refine .object (h fields) fun items hitems e he => ?_
    have hitem : sizeOf e < sizeOf items := List.sizeOf_lt_of_mem he
    have hlist : sizeOf items < sizeOf (Document.object fields) := Document.sizeOf_items_lt hitems
    exact throughout_of_forall h e
  | _ => exact .other rfl
termination_by sizeOf d
decreasing_by omega

theorem step_eq_of_asObject? {d : Document} (h : d.asObject? = none) : step d = d := by
  cases d with
  | object fields => cases h
  | _ => rfl

/-! ### Repairing twice -/

/-- At most one of the fields names a kind of step. -/
def HasOneKind (fields : List (String × Document)) : Prop :=
  (stepKinds.filter (Bindings.isBound fields)).length ≤ 1

theorem HasOneKind.eq {fields : List (String × Document)} (h : HasOneKind fields)
    {kind other : String} (hkind : kind ∈ stepKinds) (hother : other ∈ stepKinds)
    (hhas : Bindings.isBound fields kind = true) (hhas' : Bindings.isBound fields other = true) :
    kind = other := by
  have hmem : kind ∈ stepKinds.filter (Bindings.isBound fields) := List.mem_filter.2 ⟨hkind, hhas⟩
  have hmem' : other ∈ stepKinds.filter (Bindings.isBound fields) :=
    List.mem_filter.2 ⟨hother, hhas'⟩
  unfold HasOneKind at h
  generalize stepKinds.filter (Bindings.isBound fields) = kinds at h hmem hmem'
  match kinds, h with
  | [only], _ => rw [List.mem_singleton.1 hmem, List.mem_singleton.1 hmem']

theorem Shape.key_mem {key : String} {names required : List String}
    (h : Shape key names required) : key ∈ stepKinds := by
  cases h <;> decide

/-- No key that repair fills is among the names that it moves, and neither is `parallel`. -/
theorem Shape.not_mem {key key' : String} {names required names' required' : List String}
    (h : Shape key names required) (h' : Shape key' names' required') :
    key' ∉ names ∧ "parallel" ∉ names ∧ key ≠ "parallel" := by
  cases h <;> cases h' <;> decide

theorem HasOneKind.find?_eq_none {fields : List (String × Document)} (h : HasOneKind fields)
    {key other : String} {required : List String} (hbroken : isBroken key required fields = true)
    (hkey : key ∈ stepKinds) (hother : other ∈ stepKinds) (hne : other ≠ key) :
    Bindings.find? fields other = none := by
  obtain ⟨hnull, -⟩ := isBroken_iff.1 hbroken
  have hbound : Bindings.isBound fields key = true := by simp [Bindings.isBound, hnull]
  by_contra hsome
  have hbound' : Bindings.isBound fields other = true := by
    simpa [Bindings.isBound, Option.isSome_iff_ne_none] using hsome
  exact hne (h.eq hother hkey hbound' hbound)

theorem step_nestUnder {fields : List (String × Document)} (hsorted : Bindings.Sorted fields)
    (hone : HasOneKind fields) {key : String} {names required : List String}
    (hshape : Shape key names required) (hbroken : isBroken key required fields = true) :
    step (.object (nestUnder key names fields)) = .object (nestUnder key names fields) := by
  refine step_eq_self (sorted_nestUnder hsorted key names) ?_ ?_
  · intro key' names' required' hshape'
    rw [Bool.eq_false_iff]
    intro hbroken'
    obtain ⟨hnull, -⟩ := isBroken_iff.1 hbroken'
    by_cases heq : key' = key
    · rw [heq, find?_nestUnder_key] at hnull
      cases hnull
    · rw [find?_nestUnder _ (Ne.symm heq) (hshape.not_mem hshape').1,
        hone.find?_eq_none hbroken hshape.key_mem hshape'.key_mem heq] at hnull
      cases hnull
  · intro items hitems
    obtain ⟨-, hparallel, hne⟩ := hshape.not_mem hshape
    rw [find?_nestUnder _ hne hparallel,
      hone.find?_eq_none hbroken hshape.key_mem (by decide) (Ne.symm hne)] at hitems
    cases hitems

theorem isBroken_branches {fields : List (String × Document)} {key : String}
    {names required : List String} (hshape : Shape key names required) :
    isBroken key required (branches fields) = isBroken key required fields := by
  have hsame : ∀ name, name ≠ "parallel" →
      Bindings.find? (branches fields) name = Bindings.find? fields name := by
    intro name hname
    simp [find?_branches, hname]
  have hrequired : ∀ name ∈ required, name ≠ "parallel" := by
    rintro name hname rfl
    cases hshape <;> simp at hname
  rw [Bool.eq_iff_iff, isBroken_iff, isBroken_iff, hsame key (hshape.not_mem hshape).2.2]
  refine and_congr_right fun _ => forall₂_congr fun name hname => ?_
  rw [Bindings.isBound, Bindings.isBound, hsame name (hrequired name hname)]

theorem exists_of_find?_branches {fields : List (String × Document)} {items : List Document}
    (h : Bindings.find? (branches fields) "parallel" = some (.list items)) :
    ∃ original, Bindings.find? fields "parallel" = some (.list original) ∧
      items = original.map step := by
  rw [find?_branches] at h
  obtain ⟨e, he, hlist⟩ := Option.map_eq_some_iff.1 h
  rw [if_pos rfl] at hlist
  cases e with
  | list original =>
    refine ⟨original, he, ?_⟩
    rw [← steps_eq_map]
    simpa [branchList] using hlist.symm
  | _ => simp [branchList] at hlist

theorem step_step {d : Document} (hd : d.IsSettled) (h : Throughout HasOneKind d) :
    step (step d) = step d := by
  induction h with
  | other h => rw [step_eq_of_asObject? h, step_eq_of_asObject? h]
  | @object fields hone hbranches ih =>
    rcases step_object fields with ⟨key, names, required, hshape, hbroken, hstep⟩ | ⟨hnone, hstep⟩
    · rw [hstep, step_nestUnder hd.sorted hone hshape hbroken]
    · rw [hstep]
      refine step_eq_self (sorted_of_names (names_branches fields) hd.sorted) ?_ ?_
      · intro key names required hshape
        rw [isBroken_branches hshape, hnone key names required hshape]
      · intro items hitems e he
        obtain ⟨original, hfield, rfl⟩ := exists_of_find?_branches hitems
        obtain ⟨source, hsource, rfl⟩ := List.mem_map.1 he
        exact ih original hfield source hsource ((hd.of_field? hfield).of_mem hsource)

/-! ### What repair moves -/

/-- Two steps of which the second has the fields of the first, but that some belong to the choice or
the prompt whose key was empty, or that it has branches that are related like this. -/
inductive Repaired : Document → Document → Prop where
  | unchanged (d : Document) : Repaired d d
  | nested {key : String} {names required : List String}
      {fields fields' taken : List (String × Document)} (hshape : Shape key names required)
      (hnull : Bindings.find? fields key = some .null)
      (hfilled : Bindings.find? fields' key = some (.object taken))
      (htaken : ∀ name, Bindings.find? taken name =
        if name ∈ names then Bindings.find? fields name else none)
      (hmoved : ∀ name ∈ names, Bindings.find? fields' name = none)
      (hkept : ∀ name, name ≠ key → name ∉ names →
        Bindings.find? fields' name = Bindings.find? fields name) :
    Repaired (.object fields) (.object fields')
  | branches {fields fields' : List (String × Document)} {items items' : List Document}
      (hitems : Bindings.find? fields "parallel" = some (.list items))
      (hitems' : Bindings.find? fields' "parallel" = some (.list items'))
      (hrepaired : List.Forall₂ Repaired items items')
      (hkept : ∀ name, name ≠ "parallel" →
        Bindings.find? fields' name = Bindings.find? fields name) :
    Repaired (.object fields) (.object fields')

theorem repaired_step {d : Document} (hd : d.IsSettled) : Repaired d (step d) := by
  have hall : Throughout (fun _ => True) d := throughout_of_forall (fun _ => trivial) d
  induction hall with
  | other h =>
    rw [step_eq_of_asObject? h]
    exact .unchanged _
  | @object fields _ hbranches ih =>
    rcases step_object fields with ⟨key, names, required, hshape, hbroken, hstep⟩ | ⟨-, hstep⟩
    · rw [hstep]
      refine .nested hshape (isBroken_iff.1 hbroken).1 (find?_nestUnder_key key names fields)
        (Bindings.find?_filter_names fields names) (fun name hname => ?_) fun name hne hname =>
          find?_nestUnder fields (Ne.symm hne) hname
      have hne : key ≠ name := fun heq => (hshape.not_mem hshape).1 (heq ▸ hname)
      exact find?_nestUnder_name fields hne hname
    · by_cases hlist : ∃ items, Bindings.find? fields "parallel" = some (.list items)
      · obtain ⟨items, hitems⟩ := hlist
        have hrepaired : List.Forall₂ Repaired items (items.map step) := by
          rw [List.forall₂_map_right_iff, List.forall₂_same]
          exact fun e he => ih items hitems e he ((hd.of_field? hitems).of_mem he)
        rw [hstep, branches_eq_bind hd.sorted hitems]
        exact .branches hitems (Bindings.find?_bind_self ..) hrepaired fun name hname =>
          Bindings.find?_bind_of_ne _ (Ne.symm hname) _
      · rw [hstep, branches_eq_self hd.sorted fun items hitems => absurd ⟨items, hitems⟩ hlist]
        exact .unchanged _

/-! ### Steps that lost an indentation -/

def looseNames : List String := ["message", "options", "as", "default"]

/-- No field that belongs to a choice or a prompt stands in the step itself. -/
def HasNoLooseField (fields : List (String × Document)) : Prop :=
  ∀ name ∈ looseNames, Bindings.find? fields name = none

/-- A choice or a prompt whose fields, all of them its own, stand under its key. -/
structure IsWellNested (key : String) (names required : List String)
    (fields taken : List (String × Document)) : Prop where
  shape : Shape key names required
  own : Bindings.find? fields key = some (.object taken)
  required : ∀ name ∈ required, Bindings.isBound taken name = true
  only : ∀ name, Bindings.isBound taken name = true → name ∈ names

/-- The fields of a step without the indentation under a key. -/
def flattened (key : String) (taken fields : List (String × Document)) :
    List (String × Document) :=
  Bindings.union (Bindings.bind fields key .null) taken

/-- Two steps of which the second is the first with the fields of its choice or prompt, or of some
in its branches, beside the key under which they belong. -/
inductive Flattened : Document → Document → Prop where
  | kept (d : Document) : Flattened d d
  | own {key : String} {names required : List String} {fields taken : List (String × Document)}
      (h : IsWellNested key names required fields taken) :
    Flattened (.object fields) (.object (flattened key taken fields))
  | branches {fields : List (String × Document)} {items items' : List Document}
      (hitems : Bindings.find? fields "parallel" = some (.list items))
      (hflattened : List.Forall₂ Flattened items items') :
    Flattened (.object fields) (.object (Bindings.bind fields "parallel" (.list items')))

theorem Shape.subset_looseNames {key : String} {names required : List String}
    (h : Shape key names required) : names ⊆ looseNames := by
  cases h <;> decide

theorem Shape.message_mem {key : String} {names required : List String}
    (h : Shape key names required) : "message" ∈ required := by
  cases h <;> decide

/-- Nothing is missing an indentation where no message stands in the step itself. -/
theorem isBroken_eq_false {key : String} {names required : List String}
    {fields : List (String × Document)} (hshape : Shape key names required)
    (h : Bindings.find? fields "message" = none) : isBroken key required fields = false := by
  rw [Bool.eq_false_iff]
  intro hbroken
  have hmessage := (isBroken_iff.1 hbroken).2 "message" hshape.message_mem
  simp [Bindings.isBound, h] at hmessage

section Restored

variable {key : String} {names required : List String} {fields taken : List (String × Document)}

theorem find?_flattened (name : String) :
    Bindings.find? (flattened key taken fields) name = (Bindings.find? taken name).or
      (if key = name then some .null else Bindings.find? fields name) := by
  rw [flattened, Bindings.find?_union, Bindings.find?_bind]

theorem IsWellNested.find?_eq_none (h : IsWellNested key names required fields taken)
    {name : String} (hname : name ∉ names) : Bindings.find? taken name = none := by
  by_contra hsome
  exact hname (h.only name (by simpa [Bindings.isBound, Option.isSome_iff_ne_none] using hsome))

theorem IsWellNested.isBroken_flattened (h : IsWellNested key names required fields taken) :
    isBroken key required (flattened key taken fields) = true := by
  refine isBroken_iff.2 ⟨?_, fun name hname => ?_⟩
  · rw [find?_flattened, h.find?_eq_none (h.shape.not_mem h.shape).1]
    simp
  · obtain ⟨d, hd⟩ := Option.isSome_iff_exists.1 (h.required name hname)
    simp [Bindings.isBound, find?_flattened, hd]

/-- Only the choice or the prompt that lost its indentation is repaired: a prompt has no options, and
a choice goes first. -/
theorem IsWellNested.step_flattened (h : IsWellNested key names required fields taken)
    (hloose : HasNoLooseField fields) :
    step (.object (flattened key taken fields)) =
      .object (nestUnder key names (flattened key taken fields)) := by
  have hbroken := h.isBroken_flattened
  rw [step]
  cases hshape : h.shape with
  | choose => rw [isBroken_choose, hbroken, if_pos rfl]
  | prompt =>
    have hoptions : Bindings.find? (flattened "prompt" taken fields) "options" = none := by
      rw [find?_flattened, h.find?_eq_none (by decide), hloose "options" (by decide)]
      simp
    have hchoose : isBrokenChoose (flattened "prompt" taken fields) = false := by
      simp [isBrokenChoose, Bindings.isBound, hoptions]
    rw [isBroken_prompt, hchoose, hbroken]
    simp

theorem IsWellNested.nestUnder_flattened (h : IsWellNested key names required fields taken)
    (hfields : Bindings.Sorted fields) (htaken : Bindings.Sorted taken)
    (hloose : HasNoLooseField fields) :
    nestUnder key names (flattened key taken fields) = fields := by
  have hsorted : Bindings.Sorted (flattened key taken fields) :=
    Bindings.Sorted.bindAll (hfields.bind key .null) _
  have hkey : key ∉ names := (h.shape.not_mem h.shape).1
  have hback : ((flattened key taken fields).filter fun field => names.contains field.1) = taken := by
    apply Bindings.Sorted.ext (hsorted.filter _) htaken
    intro name
    rw [Bindings.find?_filter_names]
    split
    · rename_i hname
      have hne : key ≠ name := fun heq => hkey (heq ▸ hname)
      rw [find?_flattened, if_neg hne, hloose name (h.shape.subset_looseNames hname),
        Option.or_none]
    · rename_i hname
      rw [h.find?_eq_none hname]
  apply Bindings.Sorted.ext (sorted_nestUnder hsorted key names) hfields
  intro name
  by_cases hname : key = name
  · rw [← hname, find?_nestUnder_key, hback, h.own]
  by_cases hmem : name ∈ names
  · rw [find?_nestUnder_name _ hname hmem, hloose name (h.shape.subset_looseNames hmem)]
  · rw [find?_nestUnder _ hname hmem, find?_flattened, h.find?_eq_none hmem, if_neg hname,
      Option.none_or]

end Restored

theorem step_of_hasNoLooseField {d : Document} (hd : d.IsSettled)
    (h : Throughout HasNoLooseField d) : step d = d := by
  induction h with
  | other h => exact step_eq_of_asObject? h
  | object hloose hbranches ih =>
    apply step_eq_self hd.sorted
    · exact fun key names required hshape => isBroken_eq_false hshape (hloose "message" (by decide))
    · exact fun items hitems e he => ih items hitems e he ((hd.of_field? hitems).of_mem he)

theorem map_step_of_forall₂ {items items' : List Document}
    (h : List.Forall₂ Flattened items items')
    (hrestored : ∀ d ∈ items, ∀ d', Flattened d d' → step d' = d) : items'.map step = items := by
  induction h with
  | nil => rfl
  | cons hfirst hrest ih =>
    rw [List.map_cons, hrestored _ List.mem_cons_self _ hfirst,
      ih fun d hd => hrestored d (List.mem_cons_of_mem _ hd)]

theorem step_of_flattened {d d' : Document} (hd : d.IsSettled) (h : Throughout HasNoLooseField d)
    (hflattened : Flattened d d') : step d' = d := by
  induction h generalizing d' with
  | other h =>
    cases hflattened with
    | kept => exact step_eq_of_asObject? h
    | _ => cases h
  | @object fields hloose hbranches ih =>
    cases hflattened with
    | kept => exact step_of_hasNoLooseField hd (.object hloose hbranches)
    | own hnested =>
      have htaken := (hd.of_field? hnested.own).sorted
      rw [hnested.step_flattened hloose,
        hnested.nestUnder_flattened hd.sorted htaken hloose]
    | @branches fields items items' hitems hitems' =>
      have hsorted : Bindings.Sorted (Bindings.bind fields "parallel" (.list items')) :=
        hd.sorted.bind "parallel" (.list items')
      have hmessage : Bindings.find? (Bindings.bind fields "parallel" (.list items')) "message" =
          none := by
        rw [Bindings.find?_bind_of_ne _ (by decide), hloose "message" (by decide)]
      rcases step_object (Bindings.bind fields "parallel" (.list items')) with
        ⟨key, names, required, hshape, hbroken, -⟩ | ⟨-, hstep⟩
      · rw [isBroken_eq_false hshape hmessage] at hbroken
        cases hbroken
      · have hrestored : items'.map step = items := map_step_of_forall₂ hitems' fun e he e' =>
          ih items hitems e he ((hd.of_field? hitems).of_mem he)
        rw [hstep, branches_eq_bind hsorted (Bindings.find?_bind_self ..), hrestored,
          Document.object.injEq]
        refine ((hsorted.bind _ _).ext hd.sorted fun name => ?_)
        simp only [Bindings.find?_bind]
        split
        · rename_i hname
          rw [← hname, hitems]
        · rfl

/-! ### Steps that are accepted as they are -/

theorem isBound_of_isBroken {key : String} {required : List String}
    {fields : List (String × Document)} (h : isBroken key required fields = true) :
    Bindings.isBound fields key = true := by
  simp [Bindings.isBound, (isBroken_iff.1 h).1]

theorem step_eq_of_mem {α : Type} {f : Nat → Document → Checked α} {items : List Document}
    {as : List α} (hf : ∀ i d a, d.IsSettled → (f i d).value = some a → step d = d)
    (h : List.Forall₂ (fun c a => c.value = some a) (items.mapIdx f) as)
    (hitems : (Document.list items).IsSettled) : ∀ d ∈ items, step d = d := by
  intro d hd
  have hstep : List.Forall₂ (fun d (_ : α) => d.IsSettled → step d = d) items as :=
    Checked.forall₂_of_mapIdx (P := fun d _ => d.IsSettled → step d = d)
      (fun i d a hvalue hsettled => hf i d a hsettled hvalue) h
  obtain ⟨i, hi, rfl⟩ := List.getElem_of_mem hd
  obtain ⟨hlen, hget⟩ := List.forall₂_iff_get.1 hstep
  exact hget i hi (hlen ▸ hi) (hitems.of_mem hd)

/-- A branch that is accepted is a command or an end of the run, so there is nothing to repair. -/
theorem step_eq_of_branch {index branch : Nat} {d : Document} {b : Branch} (hd : d.IsSettled)
    (h : (Branch.check index branch d).value = some b) : step d = d := by
  obtain ⟨fields, kind, rfl, hkind, -, hfound⟩ := Branch.found_of_check h
  have hother : kind ≠ "choose" ∧ kind ≠ "prompt" ∧ kind ≠ "parallel" := by
    generalize b.action = action at hfound
    cases hfound <;> decide
  apply step_eq_self hd.sorted
  · intro key names required hshape
    rw [Bool.eq_false_iff]
    intro hbroken
    have heq := kind_eq_of_has hkind hshape.key_mem (isBound_of_isBroken hbroken)
    cases hshape with
    | choose => exact hother.1 heq.symm
    | prompt => exact hother.2.1 heq.symm
  · intro items hitems
    have heq : "parallel" = kind :=
      kind_eq_of_has hkind (by decide) (Option.isSome_of_eq_some hitems)
    exact absurd heq.symm hother.2.2

theorem step_eq_of_check {index : Nat} {d : Document} {s : Step} (hd : d.IsSettled)
    (h : (Step.check index d).value = some s) : step d = d := by
  obtain ⟨fields, kind, rfl, hkind, -, hfound⟩ := Step.found_of_check h
  generalize s.body = body at hfound
  apply step_eq_self hd.sorted
  · intro key names required hshape
    rw [Bool.eq_false_iff]
    intro hbroken
    have hnull : Fields.get? fields key = some .null := (isBroken_iff.1 hbroken).1
    have heq := kind_eq_of_has hkind hshape.key_mem (isBound_of_isBroken hbroken)
    -- a choice and a prompt must be objects
    cases hfound with
    | choose hcheck =>
      rw [heq] at hnull
      simp [hnull, ChooseStep.check] at hcheck
    | prompt hcheck =>
      rw [heq] at hnull
      simp [hnull, PromptStep.check] at hcheck
    | _ => cases hshape <;> simp at heq
  · intro items hitems e he
    have heq : "parallel" = kind :=
      kind_eq_of_has hkind (by decide) (Option.isSome_of_eq_some hitems)
    cases hfound with
    | @parallel branches hbranches =>
      have hget : Fields.get? fields "parallel" = some (.list items) := hitems
      have hall : (Checked.all (items.mapIdx (Branch.check index))).value = some branches := by
        rw [hget] at hbranches
        cases items with
        | nil => cases he
        | cons => exact hbranches
      exact step_eq_of_mem (fun i e b => step_eq_of_branch) (Checked.value_all.mp hall)
        (hd.of_field? hitems) e he
    | _ => simp at heq

/-! ### Documents -/

theorem exists_document (fields : List (String × Document)) : ∃ fields',
    document (.object fields) = .object fields' ∧
    Bindings.names fields' = Bindings.names fields ∧
    ∀ name, Bindings.find? fields' name = (Bindings.find? fields name).map fun d =>
      if name = "steps" then branchList d else d := by
  refine ⟨_, rfl, ?_, fun name => ?_⟩
  · rw [Bindings.names, Bindings.names, List.map_map]
    refine List.map_congr_left fun field _ => ?_
    obtain ⟨k, d⟩ := field
    by_cases hk : k = "steps"
    · subst hk
      cases d <;> rfl
    · simp [hk]
  · induction fields with
    | nil => rfl
    | cons field rest ih =>
      obtain ⟨k, d⟩ := field
      by_cases hsteps : k = "steps"
      · subst hsteps
        by_cases hname : "steps" = name
        · subst hname
          cases d <;> simp [Bindings.find?, branchList]
        · cases d <;> simp [Bindings.find?, hname, ih]
      · by_cases hname : k = name
        · simp [Bindings.find?, hname, hname ▸ hsteps]
        · simp [Bindings.find?, hname, hsteps, ih]

theorem document_eq_bind {fields : List (String × Document)} {items : List Document}
    (hsorted : Bindings.Sorted fields) (h : Bindings.find? fields "steps" = some (.list items)) :
    document (.object fields) = .object (Bindings.bind fields "steps" (.list (items.map step))) := by
  obtain ⟨fields', hdocument, hnames, hfind⟩ := exists_document fields
  rw [hdocument, Document.object.injEq]
  refine Bindings.Sorted.eq_bind (sorted_of_names hnames hsorted) hsorted ?_ fun other hother => ?_
  · simp [hfind, h, branchList, steps_eq_map]
  · simp [hfind, hother]

theorem document_eq_self {d : Document} (hd : d.IsSettled)
    (h : ∀ items, d.field? "steps" = some (.list items) → ∀ s ∈ items, step s = s) :
    document d = d := by
  cases d with
  | object fields =>
    by_cases hlist : ∃ items, Bindings.find? fields "steps" = some (.list items)
    · obtain ⟨items, hitems⟩ := hlist
      have hsame : items.map step = items := by
        conv => rhs; rw [← List.map_id items]
        exact List.map_congr_left (h items hitems)
      rw [document_eq_bind hd.sorted hitems, hsame, hd.sorted.bind_eq_self hitems]
    · obtain ⟨fields', hdocument, hnames, hfind⟩ := exists_document fields
      rw [hdocument, Document.object.injEq]
      apply (sorted_of_names hnames hd.sorted).ext hd.sorted
      intro name
      rw [hfind]
      cases hfield : Bindings.find? fields name with
      | none => rfl
      | some e =>
        by_cases hname : name = "steps"
        · subst hname
          cases e with
          | list items => exact absurd ⟨items, hfield⟩ hlist
          | _ => rfl
        · simp [hname]
  | _ => rfl

/-- Two documents of which the second has the fields of the first, its steps repaired. -/
inductive RepairedDocument : Document → Document → Prop where
  | unchanged (d : Document) : RepairedDocument d d
  | steps {fields fields' : List (String × Document)} {items items' : List Document}
      (hitems : Bindings.find? fields "steps" = some (.list items))
      (hitems' : Bindings.find? fields' "steps" = some (.list items'))
      (hrepaired : List.Forall₂ Repaired items items')
      (hkept : ∀ name, name ≠ "steps" →
        Bindings.find? fields' name = Bindings.find? fields name) :
    RepairedDocument (.object fields) (.object fields')

/-- Two documents of which the second is the first with some of its choices and prompts without
their indentation. -/
inductive FlattenedDocument : Document → Document → Prop where
  | kept (d : Document) : FlattenedDocument d d
  | steps {fields : List (String × Document)} {items items' : List Document}
      (hitems : Bindings.find? fields "steps" = some (.list items))
      (hflattened : List.Forall₂ Flattened items items') :
    FlattenedDocument (.object fields) (.object (Bindings.bind fields "steps" (.list items')))

theorem document_eq_of_check {d : Document} {w : Workflow} (hd : d.IsSettled)
    (h : (Workflow.check d).value = some w) : document d = d := by
  obtain ⟨items, -, hitems, hall⟩ := Workflow.steps_of_check h
  refine document_eq_self hd fun items' hitems' s hs => ?_
  obtain rfl : items = items' := by simpa [hitems] using hitems'
  exact step_eq_of_mem (fun i e s => step_eq_of_check) hall (hd.of_field? hitems) s hs

theorem repairedDocument_document {d : Document} (hd : d.IsSettled) :
    RepairedDocument d (document d) := by
  by_cases hlist : ∃ items, d.field? "steps" = some (.list items)
  · obtain ⟨items, hitems⟩ := hlist
    cases d with
    | object fields =>
      have hrepaired : List.Forall₂ Repaired items (items.map step) := by
        rw [List.forall₂_map_right_iff, List.forall₂_same]
        exact fun s hs => repaired_step ((hd.of_field? hitems).of_mem hs)
      rw [document_eq_bind hd.sorted hitems]
      exact .steps hitems (Bindings.find?_bind_self ..) hrepaired fun name hname =>
        Bindings.find?_bind_of_ne _ (Ne.symm hname) _
    | _ => cases hitems
  · rw [document_eq_self hd fun items hitems => absurd ⟨items, hitems⟩ hlist]
    exact .unchanged d

theorem document_bind {fields : List (String × Document)} {items items' : List Document}
    (hsorted : Bindings.Sorted fields) (h : items'.map step = items) :
    document (.object (Bindings.bind fields "steps" (.list items'))) =
      .object (Bindings.bind fields "steps" (.list items)) := by
  have hbound : Bindings.Sorted (Bindings.bind fields "steps" (.list items')) :=
    hsorted.bind "steps" (.list items')
  rw [document_eq_bind hbound (Bindings.find?_bind_self ..), h, Document.object.injEq]
  refine (hbound.bind "steps" (.list items)).ext (hsorted.bind "steps" (.list items)) fun name => ?_
  simp only [Bindings.find?_bind]
  split <;> rfl

theorem document_document {d : Document} (hd : d.IsSettled)
    (h : ∀ s ∈ Document.listed (d.field? "steps"), Throughout HasOneKind s) :
    document (document d) = document d := by
  by_cases hlist : ∃ items, d.field? "steps" = some (.list items)
  · obtain ⟨items, hitems⟩ := hlist
    rw [hitems] at h
    cases d with
    | object fields =>
      have htwice : (items.map step).map step = items.map step := by
        rw [List.map_map]
        exact List.map_congr_left fun s hs => step_step ((hd.of_field? hitems).of_mem hs) (h s hs)
      rw [document_eq_bind hd.sorted hitems, document_bind hd.sorted htwice]
    | _ => cases hitems
  · have hsame := document_eq_self hd fun items hitems => absurd ⟨items, hitems⟩ hlist
    rw [hsame, hsame]

theorem document_of_flattened {d d' : Document} (hd : d.IsSettled) (h : FlattenedDocument d d')
    (hloose : ∀ s ∈ Document.listed (d.field? "steps"), Throughout HasNoLooseField s) :
    document d' = d := by
  cases h with
  | kept =>
    refine document_eq_self hd fun items hitems s hs => ?_
    rw [hitems] at hloose
    exact step_of_hasNoLooseField ((hd.of_field? hitems).of_mem hs) (hloose s hs)
  | @steps fields items items' hitems hflattened =>
    have hsteps : (Document.object fields).field? "steps" = some (.list items) := hitems
    rw [hsteps] at hloose
    have hrestored : items'.map step = items := map_step_of_forall₂ hflattened fun s hs s' =>
      step_of_flattened ((hd.of_field? hsteps).of_mem hs) (hloose s hs)
    rw [document_bind hd.sorted hrestored, hd.sorted.bind_eq_self hitems]

/-- Repair is conservative: a document that is accepted as it is stays, steps of one kind are
repaired once and for all, no field is lost or changed, and of the fields only those of a choice or
a prompt with an empty key move. It is exact: choices and prompts that lost their indentation, though
none together with one in its own branches, have it back. All documents that are read are settled,
and so repaired in this way. -/
theorem document_conservative (d : Document) :
    (∀ format content, readDocument format content = .ok d → d.IsSettled) ∧
    (d.IsSettled →
      (∀ w, (Workflow.check d).result = .ok w → document d = d) ∧
      ((∀ s ∈ Document.listed (d.field? "steps"), Throughout HasOneKind s) →
        document (document d) = document d) ∧
      RepairedDocument d (document d) ∧
      ∀ d', FlattenedDocument d d' →
        (∀ s ∈ Document.listed (d.field? "steps"), Throughout HasNoLooseField s) →
        document d' = d) := by
  refine ⟨fun _ _ => Document.isSettled_of_readDocument, fun hd => ⟨fun w hw => ?_,
    document_document hd, repairedDocument_document hd, fun d' hd' => document_of_flattened hd hd'⟩⟩
  exact document_eq_of_check hd (Checked.result_eq_ok.1 hw).1

def question : List (String × Document) :=
  [("message", .text "m"), ("options", .list [.object [("id", .text "a"), ("label", .text "A")]])]

def single (fields : List (String × Document)) : Document :=
  .object [("steps", .list [.object fields])]

def choice : List (String × Document) := [("choose", .object question)]

def choiceAndBranch : List (String × Document) :=
  [("choose", .object question), ("parallel", .list [.object choice])]

theorem isWellNested_question (rest : List (String × Document)) :
    IsWellNested "choose" chooseNames ["message", "options"] (("choose", .object question) :: rest)
      question where
  shape := .choose
  own := rfl
  required := by decide
  only name hname := by
    have hnames : name ∈ ["message", "options"] := Bindings.isBound_iff_mem_names.1 hname
    have hsubset : ["message", "options"] ⊆ chooseNames := by decide
    exact hsubset hnames

theorem throughout_choice : Throughout HasNoLooseField (.object choice) :=
  .object (by simp [HasNoLooseField, looseNames, choice, Bindings.find?])
    fun _ hitems => by cases hitems

theorem isSettled_choice : (single choice).IsSettled := ⟨single choice, rfl⟩

/-- A choice without its indentation is repaired to what it was. -/
theorem document_conservative_choice : (single choice).IsSettled ∧
    document (single (flattened "choose" question choice)) = single choice := by
  have hflattened : FlattenedDocument (single choice)
      (single (flattened "choose" question choice)) :=
    .steps rfl (.cons (.own (isWellNested_question [])) .nil)
  refine ⟨isSettled_choice, ((document_conservative _).2 isSettled_choice).2.2.2 _ hflattened ?_⟩
  intro s hs
  obtain rfl : s = .object choice := List.mem_singleton.1 hs
  exact throughout_choice

/-- A choice and one in a branch of the same step: repair sees only the first. -/
theorem document_flattened_with_branch : (single choiceAndBranch).IsSettled ∧
    IsWellNested "choose" chooseNames ["message", "options"] choiceAndBranch question ∧
    IsWellNested "choose" chooseNames ["message", "options"] choice question ∧
    Throughout HasNoLooseField (.object choiceAndBranch) ∧
    document (single (flattened "choose" question (Bindings.bind choiceAndBranch "parallel"
      (.list [.object (flattened "choose" question choice)])))) ≠ single choiceAndBranch := by
  have hrepaired : document (single (flattened "choose" question (Bindings.bind choiceAndBranch
      "parallel" (.list [.object (flattened "choose" question choice)])))) =
        single [("choose", .object question),
          ("parallel", .list [.object (("choose", .null) :: question)])] := rfl
  refine ⟨⟨single choiceAndBranch, rfl⟩, isWellNested_question _, isWellNested_question [],
    .object ?_ fun items hitems s hs => ?_, ?_⟩
  · simp [HasNoLooseField, looseNames, choiceAndBranch, Bindings.find?]
  · obtain rfl : [.object choice] = items := by simpa [choiceAndBranch, Bindings.find?] using hitems
    obtain rfl : s = .object choice := List.mem_singleton.1 hs
    exact throughout_choice
  · rw [hrepaired]
    simp [single, choiceAndBranch, choice, question]

end Repair

end Runbook
