import Runbook.Workflow.Error

/-!
Checked values: what a check found, if it found it, and the issues it met. Main statements: a
sequence of checks meets the issues of its parts in order, and stops where a part finds nothing.
-/

namespace Runbook

structure Checked (α : Type) where
  value : Option α
  issues : List Issue

namespace Checked

variable {α β : Type}

def found (a : α) : Checked α := ⟨some a, []⟩

def issue (fault : Fault) (location : Location) : Checked α := ⟨none, [⟨fault, location⟩]⟩

/-- The value if there is one; nothing is reported otherwise. -/
def ofOption (a : Option α) : Checked α := ⟨a, []⟩

def andThen (c : Checked α) (f : α → Checked β) : Checked β :=
  match c.value with
  | some a => ⟨(f a).value, c.issues ++ (f a).issues⟩
  | none => ⟨none, c.issues⟩

instance : Monad Checked where
  pure := found
  bind := andThen

/-- A check that later ones do not wait for: finding nothing is a value of its own. -/
def optional (c : Checked α) : Checked (Option α) := ⟨some c.value, c.issues⟩

/-- Each check on its own, all issues in order; a value only if each has one. -/
def all : List (Checked α) → Checked (List α)
  | [] => found []
  | c :: rest =>
    let others := all rest
    ⟨match c.value, others.value with
      | some a, some as => some (a :: as)
      | _, _ => none, c.issues ++ others.issues⟩

def result (c : Checked α) : Except (List Issue) α :=
  match c.value, c.issues with
  | some a, [] => .ok a
  | _, issues => .error issues

@[simp] theorem value_found (a : α) : (found a).value = some a := rfl

@[simp] theorem issues_found (a : α) : (found a).issues = [] := rfl

@[simp] theorem issues_optional (c : Checked α) : c.optional.issues = c.issues := rfl

theorem issues_all (cs : List (Checked α)) : (all cs).issues = cs.flatMap Checked.issues := by
  induction cs with
  | nil => rfl
  | cons c rest ih => simp [all, ih]

theorem length_of_value_all {cs : List (Checked α)} {as : List α}
    (h : (all cs).value = some as) : as.length = cs.length := by
  induction cs generalizing as with
  | nil => simp_all [all]
  | cons c rest ih =>
    simp only [all] at h
    split at h
    · rename_i hv
      simp only [Option.some.injEq] at h
      simp [← h, ih hv]
    · simp at h

end Checked

end Runbook
