/-!
Words: numbers of a fixed number of bits. A sum or a difference beyond their range either ends the
computation or stays at the greatest word.
-/

namespace Runbook

/-- What ends a computation on words: a result out of their range. -/
inductive Overflow where
  | overflow
  deriving DecidableEq, Repr

abbrev Computed (α : Type) := Except Overflow α

namespace Computed

variable {α β : Type}

theorem map_eq_overflow_iff {f : α → β} {c : Computed α} :
    f <$> c = .error .overflow ↔ c = .error .overflow := by
  cases c <;> simp [Functor.map, Except.map]

theorem bind_eq_overflow_iff {f : α → Computed β} {c : Computed α} :
    c >>= f = .error .overflow ↔ c = .error .overflow ∨ ∃ a, c = .ok a ∧ f a = .error .overflow := by
  cases c <;> simp [bind, Except.bind]

/-- Of computations one after the other, none of which an overflow ends, all are made. -/
theorem mapM_eq_ok {f : α → Computed β} {g : α → β} {items : List α}
    (h : ∀ a ∈ items, f a = .ok (g a)) : items.mapM f = .ok (items.map g) := by
  induction items with
  | nil => rfl
  | cons a items ih =>
    obtain ⟨hfirst, hrest⟩ := List.forall_mem_cons.mp h
    rw [List.mapM_cons, hfirst, ih hrest]
    rfl

theorem mapM_eq_overflow_iff {f : α → Computed β} {items : List α} :
    items.mapM f = .error .overflow ↔ ∃ a ∈ items, f a = .error .overflow := by
  induction items with
  | nil => simp [pure, Except.pure]
  | cons a items ih =>
    rw [List.mapM_cons]
    cases hfirst : f a with
    | error e =>
      cases e
      simp [hfirst, bind, Except.bind]
    | ok b =>
      simp only [List.mem_cons, exists_eq_or_imp, hfirst, reduceCtorEq, false_or, ← ih]
      cases items.mapM f <;> simp [bind, Except.bind, pure, Except.pure]

end Computed

namespace Word

def count (bits : Nat) : Nat := Nat.pow 2 bits

def greatest (bits : Nat) : Nat := count bits - 1

def isSigned (bits : Nat) (n : Int) : Bool :=
  -(count (bits - 1) : Int) ≤ n && n < (count (bits - 1) : Int)

/-! ### Without a sign, of 32 bits -/

def next (n : UInt32) : Computed UInt32 :=
  if n.toNat < greatest 32 then .ok (n + 1) else .error .overflow

/-- The word after another, or the greatest one. -/
def following (n : UInt32) : UInt32 := if n.toNat < greatest 32 then n + 1 else n

theorem toNat_add_one {n : UInt32} (hn : n.toNat < greatest 32) : (n + 1).toNat = n.toNat + 1 := by
  have bound : n.toNat + 1 < 2 ^ 32 := by change n.toNat < 2 ^ 32 - 1 at hn; omega
  rw [UInt32.toNat_add, show (1 : UInt32).toNat = 1 from rfl, Nat.mod_eq_of_lt bound]

@[simp] theorem toNat_following (n : UInt32) :
    (following n).toNat = min (n.toNat + 1) (greatest 32) := by
  have range : n.toNat ≤ greatest 32 := by
    have := n.toNat_lt
    change n.toNat ≤ 2 ^ 32 - 1
    omega
  unfold following
  split
  case isTrue h => rw [toNat_add_one h]; omega
  case isFalse h => omega

/-! ### With a sign, of 64 bits -/

def previous (n : Int64) : Computed Int64 :=
  if n = Int64.minValue then .error .overflow else .ok (n - 1)

end Word

end Runbook
