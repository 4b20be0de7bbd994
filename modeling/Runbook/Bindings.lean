/-!
Bindings of names to values, as lists strictly sorted by name. Main statements: a lookup after a
binding gives the value bound last, and binding keeps the order.
-/

namespace Runbook

/-- Names, texts unless said otherwise, bound to values and sorted by name. -/
abbrev Bindings (α : Type) (κ : Type := String) := List (κ × α)

namespace Bindings

variable {α κ : Type} [DecidableEq κ] [LT κ] [DecidableLT κ]

def find? (m : Bindings α κ) (name : κ) : Option α :=
  match m with
  | [] => none
  | (k, v) :: rest => if k = name then some v else find? rest name

/-- Binds a name, in its place of the order, replacing what it was bound to. -/
def bind (m : Bindings α κ) (name : κ) (value : α) : Bindings α κ :=
  match m with
  | [] => [(name, value)]
  | (k, v) :: rest =>
    if k = name then (name, value) :: rest
    else if name < k then (name, value) :: (k, v) :: rest
    else (k, v) :: bind rest name value

def isBound (m : Bindings α κ) (name : κ) : Bool := (m.find? name).isSome

/-- Binds one name after the other; a later pair wins over an earlier one. -/
def bindAll (m : Bindings α κ) (pairs : List (κ × α)) : Bindings α κ :=
  pairs.foldl (fun acc (k, v) => bind acc k v) m

def ofPairs (pairs : List (κ × α)) : Bindings α κ := bindAll [] pairs

/-- The bindings of both lists; the second wins, with the values that a lookup in it finds. -/
def union (m n : Bindings α κ) : Bindings α κ := m.bindAll n.reverse

def names (m : Bindings α κ) : List κ := List.map Prod.fst m

/-- Strictly sorted by name. -/
def Sorted (m : Bindings α κ) : Prop := m.Pairwise fun a b => a.1 < b.1

theorem find?_bind (m : Bindings α κ) (name other : κ) (value : α) :
    (m.bind name value).find? other = if name = other then some value else m.find? other := by
  induction m with
  | nil => simp [bind, find?]
  | cons entry rest ih =>
    obtain ⟨k, v⟩ := entry
    simp only [bind]
    split
    · rename_i hk
      subst hk
      by_cases h : k = other <;> simp [find?, h]
    · rename_i hk
      split
      · simp [find?]
      · simp only [find?, ih]
        by_cases h : k = other
        · subst h
          simp [Ne.symm hk]
        · simp [h]

theorem find?_bind_self (m : Bindings α κ) (name : κ) (value : α) :
    (m.bind name value).find? name = some value := by simp [find?_bind]

theorem find?_bind_of_ne (m : Bindings α κ) {name other : κ} (h : name ≠ other) (value : α) :
    (m.bind name value).find? other = m.find? other := by simp [find?_bind, h]

theorem isBound_bind (m : Bindings α κ) (name other : κ) (value : α) :
    (m.bind name value).isBound other = (decide (name = other) || m.isBound other) := by
  by_cases h : name = other <;> simp [isBound, find?_bind, h]

theorem bindAll_cons (m : Bindings α κ) (entry : κ × α) (pairs : List (κ × α)) :
    m.bindAll (entry :: pairs) = (m.bind entry.1 entry.2).bindAll pairs := rfl

theorem isBound_bindAll {m : Bindings α κ} {pairs : List (κ × α)} {name : κ} :
    (m.bindAll pairs).isBound name = true ↔ m.isBound name = true ∨ name ∈ names pairs := by
  induction pairs generalizing m with
  | nil => simp [bindAll, names]
  | cons entry rest ih =>
    rw [bindAll_cons, ih, isBound_bind, Bool.or_eq_true, decide_eq_true_eq, names, names,
      List.map_cons, List.mem_cons, eq_comm (a := name), or_assoc, or_left_comm]

omit [LT κ] [DecidableLT κ] in
theorem isBound_iff_mem_names {m : Bindings α κ} {name : κ} :
    m.isBound name = true ↔ name ∈ m.names := by
  induction m with
  | nil => simp [isBound, find?, names]
  | cons entry rest ih =>
    rw [names, List.map_cons, List.mem_cons, ← names, ← ih, isBound, isBound, find?]
    by_cases h : entry.1 = name
    · simp [h]
    · simp [h, Ne.symm h]

omit [LT κ] [DecidableLT κ] in
theorem find?_append (m n : Bindings α κ) (name : κ) :
    Bindings.find? (m ++ n) name = (m.find? name).or (n.find? name) := by
  induction m with
  | nil => rfl
  | cons entry rest ih =>
    obtain ⟨k, v⟩ := entry
    by_cases h : k = name
    · simp [find?, h]
    · simp [find?, h, ih]

theorem find?_bindAll (m : Bindings α κ) (pairs : List (κ × α)) (name : κ) :
    (m.bindAll pairs).find? name = (Bindings.find? pairs.reverse name).or (m.find? name) := by
  induction pairs generalizing m with
  | nil => rfl
  | cons entry rest ih =>
    rw [bindAll_cons, ih, List.reverse_cons, find?_append, find?_bind, Option.or_assoc]
    by_cases h : entry.1 = name <;> simp [find?, h]

theorem find?_ofPairs (pairs : List (κ × α)) (name : κ) :
    (ofPairs pairs).find? name = Bindings.find? pairs.reverse name := by
  rw [ofPairs, find?_bindAll]
  exact Option.or_none

/-- The second list wins. -/
theorem find?_union (m n : Bindings α κ) (name : κ) :
    (m.union n).find? name = (n.find? name).or (m.find? name) := by
  rw [union, find?_bindAll, List.reverse_reverse]

theorem mem_names_ofPairs {pairs : List (κ × α)} {name : κ} :
    name ∈ (ofPairs pairs).names ↔ name ∈ pairs.map Prod.fst := by
  rw [← isBound_iff_mem_names, ofPairs, isBound_bindAll]
  simp [isBound, find?, names]

omit [LT κ] [DecidableLT κ] in
/-- Leaving out other names does not change what a name is bound to. -/
theorem find?_filter {m : Bindings α κ} {p : κ × α → Bool} {name : κ}
    (h : ∀ a, p (name, a) = true) : Bindings.find? (m.filter p) name = m.find? name := by
  induction m with
  | nil => rfl
  | cons entry rest ih =>
    obtain ⟨k, v⟩ := entry
    by_cases hk : k = name
    · subst hk
      simp [h v, find?]
    · cases hp : p (k, v) <;> simp [hp, find?, hk, ih]

omit [LT κ] [DecidableLT κ] in
theorem find?_filter_eq_none {m : Bindings α κ} {p : κ × α → Bool} {name : κ}
    (h : ∀ a, p (name, a) = false) : Bindings.find? (m.filter p) name = none := by
  induction m with
  | nil => rfl
  | cons entry rest ih =>
    obtain ⟨k, v⟩ := entry
    by_cases hk : k = name
    · subst hk
      simpa [h v] using ih
    · cases hp : p (k, v) <;> simp [hp, find?, hk, ih]

omit [LT κ] [DecidableLT κ] in
theorem eq_of_count_names {m : Bindings α κ} {name : κ} {v w : α} (h : m.names.count name ≤ 1)
    (hv : (name, v) ∈ m) (hw : (name, w) ∈ m) : v = w := by
  induction m with
  | nil => cases hv
  | cons entry rest ih =>
    obtain ⟨k, x⟩ := entry
    have hcount : (names ((k, x) :: rest)).count name =
        (names rest).count name + if k == name then 1 else 0 := List.count_cons
    have hmem : ∀ {y : α}, (name, y) ∈ rest → 0 < (names rest).count name := fun hy =>
      List.count_pos_iff.2 (List.mem_map.2 ⟨_, hy, rfl⟩)
    rw [hcount] at h
    rcases List.mem_cons.1 hv with heq | hrest
    · obtain ⟨rfl, rfl⟩ := Prod.mk.inj heq
      rcases List.mem_cons.1 hw with heq | hrest
      · exact (Prod.mk.inj heq).2.symm
      · have hpos := hmem hrest
        simp at h
        omega
    · rcases List.mem_cons.1 hw with heq | hrest'
      · obtain ⟨rfl, rfl⟩ := Prod.mk.inj heq
        have hpos := hmem hrest
        simp at h
        omega
      · exact ih (by omega) hrest hrest'

omit [LT κ] [DecidableLT κ] in
theorem mem_of_find? {m : Bindings α κ} {name : κ} {value : α} (h : m.find? name = some value) :
    (name, value) ∈ m := by
  induction m with
  | nil => cases h
  | cons entry rest ih =>
    obtain ⟨k, v⟩ := entry
    by_cases hk : k = name
    · subst hk
      obtain rfl : v = value := by simpa [find?] using h
      exact List.mem_cons_self
    · exact List.mem_cons_of_mem _ (ih (by simpa [find?, hk] using h))

theorem mem_bind {m : Bindings α κ} {name : κ} {value : α} {e : κ × α}
    (h : e ∈ m.bind name value) : e = (name, value) ∨ e ∈ m := by
  induction m with
  | nil => simpa [bind] using h
  | cons entry rest ih =>
    obtain ⟨k, v⟩ := entry
    simp only [bind] at h
    split at h
    · rcases List.mem_cons.1 h with h | h
      · exact Or.inl h
      · exact Or.inr (List.mem_cons_of_mem _ h)
    · split at h
      · exact List.mem_cons.1 h
      · rcases List.mem_cons.1 h with h | h
        · exact Or.inr (h ▸ List.mem_cons_self)
        · exact (ih h).imp_right (List.mem_cons_of_mem _)

theorem mem_bindAll {m : Bindings α κ} {pairs : List (κ × α)} {e : κ × α}
    (h : e ∈ m.bindAll pairs) : e ∈ m ∨ e ∈ pairs := by
  induction pairs generalizing m with
  | nil => exact .inl h
  | cons entry rest ih =>
    rcases ih h with h | h
    · exact (mem_bind h).elim (fun heq => .inr (heq ▸ List.mem_cons_self)) .inl
    · exact .inr (List.mem_cons_of_mem _ h)

theorem mem_ofPairs {pairs : List (κ × α)} {e : κ × α} (h : e ∈ ofPairs pairs) : e ∈ pairs :=
  (mem_bindAll h).resolve_left List.not_mem_nil

/-! ### Order -/

section Order

variable [LE κ] [Std.IsLinearOrder κ] [Std.LawfulOrderLT κ]

theorem Sorted.bind {m : Bindings α κ} (h : m.Sorted) (name : κ) (value : α) :
    (m.bind name value).Sorted := by
  induction m with
  | nil => exact List.pairwise_singleton _ _
  | cons entry rest ih =>
    obtain ⟨k, v⟩ := entry
    obtain ⟨hk, hrest⟩ := List.pairwise_cons.mp h
    simp only [Bindings.bind]
    split
    · rename_i heq
      subst heq
      exact List.pairwise_cons.mpr ⟨hk, hrest⟩
    · rename_i hne
      split
      · rename_i hlt
        refine List.pairwise_cons.mpr ⟨fun e he => ?_, h⟩
        rcases List.mem_cons.mp he with rfl | he
        · exact hlt
        · exact Std.lt_trans hlt (hk e he)
      · rename_i hge
        refine List.pairwise_cons.mpr ⟨fun e he => ?_, ih hrest⟩
        rcases mem_bind he with rfl | he
        · exact Std.lt_of_le_of_ne (Std.not_lt.mp hge) hne
        · exact hk e he

theorem Sorted.bindAll {m : Bindings α κ} (h : m.Sorted) (pairs : List (κ × α)) :
    (m.bindAll pairs).Sorted := by
  induction pairs generalizing m with
  | nil => exact h
  | cons entry rest ih => exact ih (h.bind entry.1 entry.2)

theorem sorted_ofPairs (pairs : List (κ × α)) : (ofPairs pairs).Sorted :=
  Sorted.bindAll List.Pairwise.nil pairs

omit [DecidableLT κ] [Std.IsLinearOrder κ] in
theorem Sorted.find?_eq_some_iff {m : Bindings α κ} (h : m.Sorted) {name : κ} {value : α} :
    m.find? name = some value ↔ (name, value) ∈ m := by
  induction m with
  | nil => simp [find?]
  | cons entry rest ih =>
    obtain ⟨k, v⟩ := entry
    obtain ⟨hk, hrest⟩ := List.pairwise_cons.mp h
    by_cases hname : k = name
    · subst hname
      have hfresh : (k, value) ∉ rest := by
        intro hmem
        have hlt : k < k := hk (k, value) hmem
        exact Std.lt_irrefl hlt
      simp [find?, hfresh, eq_comm]
    · simp [find?, hname, ih hrest, Ne.symm hname]

theorem bind_eq_append {m : Bindings α κ} {name : κ} (h : ∀ e ∈ m, e.1 < name) (value : α) :
    m.bind name value = m ++ [(name, value)] := by
  induction m with
  | nil => rfl
  | cons entry rest ih =>
    obtain ⟨k, v⟩ := entry
    have hlt : k < name := h (k, v) List.mem_cons_self
    have hle : ¬ name < k := Std.not_lt.mpr (Std.le_of_lt hlt)
    have hrest := ih fun e he => h e (List.mem_cons_of_mem _ he)
    simp [Bindings.bind, Std.ne_of_lt hlt, hle, hrest]

end Order

end Bindings

end Runbook
