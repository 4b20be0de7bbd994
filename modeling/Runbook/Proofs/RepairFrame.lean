import Runbook.Workflow.Reader

/-!
Documents before and after repair. Main statements: a document that is read from a text is settled,
and so is every part of it; a repaired step has every field that it had before, other than the fields
of a choice or a prompt and the branches of a parallel step.
-/

namespace Runbook

namespace Document

/-- Documents with the fields of every object sorted, each name once. -/
def IsSettled (d : Document) : Prop := ∃ original, settled original = d

namespace IsSettled

variable {d : Document} {fields : List (String × Document)} {items : List Document}

theorem exists_fields (h : (object fields).IsSettled) :
    ∃ original, fields = Bindings.ofPairs (settledFields original) := by
  obtain ⟨original, horiginal⟩ := h
  cases original with
  | object original =>
    rw [settled, object.injEq] at horiginal
    exact ⟨original, horiginal.symm⟩
  | _ => simp [settled] at horiginal

theorem sorted (h : (object fields).IsSettled) : Bindings.Sorted fields := by
  obtain ⟨original, rfl⟩ := h.exists_fields
  exact Bindings.sorted_ofPairs _

theorem of_field? (h : d.IsSettled) {name : String} {e : Document} (he : d.field? name = some e) :
    e.IsSettled := by
  cases d with
  | object fields =>
    obtain ⟨original, rfl⟩ := h.exists_fields
    have hmem := Bindings.mem_ofPairs (Bindings.mem_of_find? he)
    rw [settledFields_eq_map] at hmem
    obtain ⟨field, _, hfield⟩ := List.mem_map.mp hmem
    exact ⟨field.2, (Prod.mk.inj hfield).2⟩
  | _ => cases he

theorem of_mem (h : (list items).IsSettled) {e : Document} (he : e ∈ items) : e.IsSettled := by
  obtain ⟨original, horiginal⟩ := h
  cases original with
  | list original =>
    rw [settled, list.injEq, settledItems_eq_map] at horiginal
    obtain ⟨source, _, hsource⟩ := List.mem_map.mp (horiginal ▸ he)
    exact ⟨source, hsource⟩
  | _ => simp [settled] at horiginal

end IsSettled

theorem isSettled_of_readDocument {format : FileFormat} {content : String} {d : Document}
    (h : readDocument format content = .ok d) : d.IsSettled := by
  unfold readDocument at h
  dsimp only at h
  split at h
  · rename_i original _
    exact ⟨original, Except.ok.inj h⟩
  · cases h

end Document

namespace Repair

def touchedNames : List String :=
  ["choose", "prompt", "parallel", "message", "options", "as", "default"]

theorem find?_nestUnder {key name : String} {names : List String}
    (fields : List (String × Document)) (hkey : key ≠ name) (hnames : name ∉ names) :
    Bindings.find? (nestUnder key names fields) name = Bindings.find? fields name := by
  unfold nestUnder takeFields
  rw [List.partition_eq_filter_filter]
  change Bindings.find? (Bindings.bind _ key _) name = _
  rw [Bindings.find?_bind_of_ne _ hkey]
  exact Bindings.find?_filter fun _ => by simp [hnames]

/-- A list of branches with each of them repaired; anything else stays. -/
def branchList : Document → Document
  | .list items => .list (steps items)
  | d => d

theorem find?_branches (fields : List (String × Document)) (name : String) :
    Bindings.find? (branches fields) name =
      (Bindings.find? fields name).map fun d => if name = "parallel" then branchList d else d := by
  induction fields with
  | nil => simp [branches, Bindings.find?]
  | cons field rest ih =>
    obtain ⟨k, d⟩ := field
    by_cases hk : k = name
    · subst hk
      cases d <;> simp [branches, branchList, Bindings.find?]
      by_cases hparallel : k = "parallel" <;> simp [hparallel]
    · cases d <;> simp [branches, Bindings.find?, hk, ih]

theorem field?_step (d : Document) (name : String) (h : name ∉ touchedNames) :
    (step d).field? name = d.field? name := by
  simp only [touchedNames, List.mem_cons, List.not_mem_nil, or_false, not_or] at h
  obtain ⟨hchoose, hprompt, hparallel, hmessage, hoptions, has, hdefault⟩ := h
  cases d with
  | object fields =>
    rw [step]
    split
    · exact find?_nestUnder fields (Ne.symm hchoose) (by simp [chooseNames, *])
    · split
      · exact find?_nestUnder fields (Ne.symm hprompt) (by simp [promptNames, *])
      · simp [Document.field?, find?_branches, hparallel]
  | _ => rfl

theorem isBound_nestUnder (key : String) (names : List String) (fields : List (String × Document)) :
    Bindings.isBound (nestUnder key names fields) key = true := by
  unfold nestUnder
  simp [Bindings.isBound_bind]

theorem steps_eq_map (items : List Document) : steps items = items.map step := by
  induction items with
  | nil => rfl
  | cons d rest ih => rw [steps, ih, List.map_cons]

theorem steps_of_document {d : Document} {items : List Document}
    (h : (document d).field? "steps" = some (.list items)) :
    ∃ original, d.field? "steps" = some (.list original) ∧ items = original.map step := by
  cases d with
  | object fields =>
    simp only [document, Document.field?] at h
    induction fields with
    | nil => simp [Bindings.find?] at h
    | cons field rest ih =>
      obtain ⟨k, v⟩ := field
      by_cases hk : k = "steps"
      · subst hk
        cases v with
        | list original =>
          have hitems : steps original = items := by simpa [Bindings.find?] using h
          refine ⟨original, by simp [Document.field?, Bindings.find?], ?_⟩
          rw [← hitems, steps_eq_map]
        | _ => simp [Bindings.find?] at h
      · obtain ⟨original, horiginal, hitems⟩ := ih (by simpa [Bindings.find?, hk] using h)
        exact ⟨original, by simpa [Document.field?, Bindings.find?, hk] using horiginal, hitems⟩
  | _ => simp [document, Document.field?] at h

end Repair

end Runbook
