import Runbook.Record

/-!
Records: an object that holds fields of different names, those left out that have no value, has
just these values. What stands in a field is read as it was written.
-/

namespace Runbook.Record

/-- The fields of an object, those without a value left out. -/
def written (fields : List (String × Option Document)) : List (String × Document) :=
  fields.filterMap fun f => f.2.map fun d => (f.1, d)

@[simp] theorem written_nil : written [] = [] := rfl

@[simp] theorem written_none (name : String) (fields : List (String × Option Document)) :
    written ((name, none) :: fields) = written fields := rfl

@[simp] theorem written_some (name : String) (d : Document)
    (fields : List (String × Option Document)) :
    written ((name, some d) :: fields) = (name, d) :: written fields := rfl

theorem written_append (fields others : List (String × Option Document)) :
    written (fields ++ others) = written fields ++ written others := List.filterMap_append ..

theorem present_eq_written {α : Type} (name : String) (write : α → Document) (o : Option α) :
    present name write o = written [(name, o.map write)] := by
  cases o <;> rfl

theorem mem_names_of_mem_written {fields : List (String × Option Document)}
    {f : String × Document} (h : f ∈ written fields) : f.1 ∈ fields.map Prod.fst := by
  obtain ⟨g, hg, hf⟩ := List.mem_filterMap.mp h
  obtain ⟨d, -, rfl⟩ := Option.map_eq_some_iff.mp hf
  exact List.mem_map_of_mem hg

theorem written_filter_of_not_mem {fields : List (String × Option Document)} {name : String}
    (h : name ∉ fields.map Prod.fst) :
    ((written fields).filter fun f => f.1 == name) = [] := by
  rw [List.filter_eq_nil_iff]
  intro f hf heq
  exact h (beq_iff_eq.mp heq ▸ mem_names_of_mem_written hf)

theorem not_isRepeated_written {fields : List (String × Option Document)}
    (h : (fields.map Prod.fst).Nodup) (name : String) :
    isRepeated (written fields) name = false := by
  simp only [isRepeated, decide_eq_false_iff_not, Nat.not_lt]
  induction fields with
  | nil => simp
  | cons f fields ih =>
    obtain ⟨k, o⟩ := f
    obtain ⟨hnot, hnodup⟩ := List.nodup_cons.mp h
    cases o with
    | none => exact ih hnodup
    | some d =>
      by_cases hk : k = name
      · subst hk
        simp [written_filter_of_not_mem hnot]
      · simpa [hk] using ih hnodup

theorem find?_written_of_not_mem {fields : List (String × Option Document)} {name : String}
    (h : name ∉ fields.map Prod.fst) : Bindings.find? (written fields) name = none := by
  induction fields with
  | nil => rfl
  | cons f fields ih =>
    obtain ⟨k, o⟩ := f
    simp only [List.map_cons, List.mem_cons, not_or] at h
    cases o with
    | none => exact ih h.2
    | some d => simpa [Bindings.find?, Ne.symm h.1] using ih h.2

theorem find?_written {fields : List (String × Option Document)}
    (h : (fields.map Prod.fst).Nodup) {f : String × Option Document} (hf : f ∈ fields) :
    Bindings.find? (written fields) f.1 = f.2 := by
  induction fields with
  | nil => cases hf
  | cons g fields ih =>
    obtain ⟨k, o⟩ := g
    obtain ⟨hnot, hnodup⟩ := List.nodup_cons.mp h
    rcases List.mem_cons.mp hf with rfl | hmem
    · cases o with
      | none =>
        have hfind := find?_written_of_not_mem hnot
        exact hfind
      | some d => simp [Bindings.find?]
    · have hne : k ≠ f.1 := fun hk => hnot (List.mem_map.mpr ⟨f, hmem, hk.symm⟩)
      cases o with
      | none => exact ih hnodup hmem
      | some d => simpa [Bindings.find?, hne] using ih hnodup hmem

theorem fields?_written (fields : List (String × Option Document))
    (h : (fields.map Prod.fst).Nodup) (spare : Nat) :
    fields? (fields.map Prod.fst) spare (.object (written fields)) =
      some (fields.map Prod.snd) := by
  simp only [fields?, not_isRepeated_written h, List.any_eq_true, Bool.false_eq_true, and_false,
    exists_false, ↓reduceIte, List.map_map, Option.some.injEq]
  exact List.map_congr_left fun f hf => find?_written h hf

theorem fields?_object {fields : List (String × Document)} (h : (fields.map Prod.fst).Nodup)
    (spare : Nat) : fields? (fields.map Prod.fst) spare (.object fields) =
      some (fields.map fun f => some f.2) := by
  have hwritten : ∀ others : List (String × Document),
      written (others.map fun f => (f.1, some f.2)) = others := by
    intro others
    induction others with
    | nil => rfl
    | cons f others ih => rw [List.map_cons, written_some, ih]
  have hvalues := fields?_written (fields.map fun f => (f.1, some f.2))
    (by simpa [Function.comp_def] using h) spare
  simpa [hwritten, Function.comp_def] using hvalues

theorem tagged?_object {tag : String} {fields : List (String × Document)}
    (h : tag ∉ fields.map Prod.fst) (kind : String) :
    tagged? tag (.object ((tag, .text kind) :: fields)) = some (kind, .object fields) := by
  have hne : ∀ f ∈ fields, f.1 ≠ tag := fun f hf heq => h (heq ▸ List.mem_map_of_mem hf)
  have hnone : (fields.filter fun f => f.1 == tag) = [] :=
    List.filter_eq_nil_iff.mpr fun f hf => by simp [hne f hf]
  have hall : (fields.filter fun f => f.1 != tag) = fields :=
    List.filter_eq_self.mpr fun f hf => by simp [hne f hf]
  simp [tagged?, isRepeated, hnone, hall, Bindings.find?]

/-! ### Values of fields -/

section
variable {α : Type} {read? : Document → Option α} {write : α → Document}

theorem optional?_map {o : Option α} (hread : ∀ a ∈ o, read? (write a) = some a)
    (hnull : ∀ a, write a ≠ .null) : optional? read? (o.map write) = some o := by
  cases o with
  | none => rfl
  | some a =>
    have ha := hread a rfl
    unfold optional?
    split
    next heq => cases heq
    next heq => exact absurd (Option.some.inj heq) (hnull a)
    next d _ heq => rw [← Option.some.inj heq, ha, Option.map_some]

theorem optional?_orNull {o : Option α} (hread : ∀ a ∈ o, read? (write a) = some a)
    (hnull : ∀ a, write a ≠ .null) : optional? read? (some (orNull write o)) = some o := by
  cases o with
  | none => rfl
  | some a => exact optional?_map hread hnull

theorem exists_of_optional? {value : Option Document} {a : α}
    (h : optional? read? value = some (some a)) : ∃ d, read? d = some a := by
  unfold optional? at h
  split at h
  · cases h
  · cases h
  · obtain ⟨b, hb, heq⟩ := Option.map_eq_some_iff.mp h
    exact ⟨_, heq ▸ hb⟩

theorem listOf?_map {l : List α} (h : ∀ a ∈ l, read? (write a) = some a) :
    listOf? read? (.list (l.map write)) = some l := by
  rw [listOf?]
  induction l with
  | nil => rfl
  | cons a l ih =>
    rw [List.map_cons, List.mapM_cons, h a List.mem_cons_self,
      ih fun b hb => h b (List.mem_cons_of_mem a hb)]
    rfl

theorem exists_of_listOf? {d : Document} {l : List α} (h : listOf? read? d = some l) :
    ∀ a ∈ l, ∃ item, read? item = some a := by
  unfold listOf? at h
  split at h
  next items =>
    induction items generalizing l with
    | nil =>
      obtain rfl := Option.some.inj h
      simp
    | cons item items ih =>
      simp only [List.mapM_cons, Option.bind_eq_bind, Option.bind_eq_some_iff, Option.pure_def,
        Option.some.injEq] at h
      obtain ⟨first, hfirst, rest, hrest, rfl⟩ := h
      exact List.forall_mem_cons.mpr ⟨⟨item, hfirst⟩, ih hrest⟩
  next => cases h

end

theorem natural?_natural {bound n : Nat} (h : n < bound) : natural? bound (natural n) = some n := by
  simp [natural?, natural, h]

theorem word64?_natural {n : Nat} (h : n < Word.count 64) : word64? (natural n) = some n :=
  natural?_natural h

theorem word32?_natural {n : Nat} (h : n < Word.count 32) : word32? (natural n) = some n :=
  natural?_natural h

theorem signed32?_integer {n : Int} (h : Word.isSigned 32 n = true) :
    signed32? (.integer n) = some n := by
  simp [signed32?, h]

theorem lt_of_natural? {bound n : Nat} {d : Document} (h : natural? bound d = some n) :
    n < bound := by
  unfold natural? at h
  split at h
  next k =>
    split at h
    next hk =>
      obtain rfl := Option.some.inj h
      omega
    next => cases h
  next => cases h

theorem isSigned_of_signed32? {d : Document} {n : Int} (h : signed32? d = some n) :
    Word.isSigned 32 n = true := by
  unfold signed32? at h
  split at h
  next k =>
    split at h
    next hk => exact Option.some.inj h ▸ hk
    next => cases h
  next => cases h

end Runbook.Record
