import Runbook.Program

/-!
Traces of programs: the exchanges through which a program comes to a result, whatever its host.
Main statements: the trace of a program followed by another one falls into the traces of both, and
a program that a host drives to its end has the exchanges of that drive as a trace.
-/

namespace Runbook.Program

variable {I : Interface} {α β : Type}

def Runs : Program I α → List (Exchange I) → α → Prop
  | .done a, es, b => es = [] ∧ b = a
  | .halted _, _, _ => False
  | .perform c next, es, b => ∃ reply rest, es = ⟨c, reply⟩ :: rest ∧ Runs (next reply) rest b

@[simp] theorem runs_done {a b : α} {es : List (Exchange I)} :
    Runs (.done a) es b ↔ es = [] ∧ b = a := Iff.rfl

@[simp] theorem runs_halted {why : Halt} {b : α} {es : List (Exchange I)} :
    ¬ Runs (.halted why) es b := id

/-- A computation on words comes to its result without any exchange. -/
theorem runs_computed {c : Computed α} {es : List (Exchange I)} {a : α} :
    Runs (computed c) es a ↔ es = [] ∧ c = .ok a := by
  match c with
  | .ok b => simp [computed, eq_comm]
  | .error .overflow => simp [computed]

theorem runs_andThen {p : Program I α} {f : α → Program I β} {es : List (Exchange I)} {b : β} :
    Runs (andThen f p) es b ↔ ∃ front a back, es = front ++ back ∧ Runs p front a ∧
      Runs (f a) back b := by
  induction p generalizing es with
  | done a =>
    constructor
    · intro h
      exact ⟨[], a, es, rfl, ⟨rfl, rfl⟩, h⟩
    · rintro ⟨front, a', back, rfl, ⟨rfl, rfl⟩, h⟩
      exact h
  | halted why =>
    constructor
    · intro h
      exact h.elim
    · rintro ⟨_, _, _, _, h, _⟩
      exact h.elim
  | perform c next ih =>
    constructor
    · rintro ⟨reply, rest, rfl, h⟩
      obtain ⟨front, a, back, rfl, hfront, hback⟩ := (ih reply).mp h
      exact ⟨⟨c, reply⟩ :: front, a, back, rfl, ⟨reply, front, rfl, hfront⟩, hback⟩
    · rintro ⟨_, a, back, rfl, ⟨reply, front, rfl, hfront⟩, hback⟩
      exact ⟨reply, front ++ back, rfl, (ih reply).mpr ⟨front, a, back, rfl, hfront, hback⟩⟩

theorem runs_bind {p : Program I α} {f : α → Program I β} {es : List (Exchange I)} {b : β} :
    Runs (p >>= f) es b ↔ ∃ front a back, es = front ++ back ∧ Runs p front a ∧
      Runs (f a) back b := runs_andThen

theorem runs_traced {p : Program I α} {es : List (Exchange I)} {r : α × List (Exchange I)} :
    Runs p.traced es r ↔ r.2 = es ∧ Runs p es r.1 := by
  induction p generalizing es r with
  | done a =>
    obtain ⟨b, given⟩ := r
    simp only [traced, runs_done, Prod.mk.injEq]
    constructor
    · rintro ⟨rfl, rfl, rfl⟩
      exact ⟨rfl, rfl, rfl⟩
    · rintro ⟨rfl, rfl, rfl⟩
      exact ⟨rfl, rfl, rfl⟩
  | halted why =>
    constructor
    · intro h
      exact h.elim
    · rintro ⟨_, h⟩
      exact h.elim
  | perform c next ih =>
    constructor
    · rintro ⟨reply, rest, rfl, h⟩
      obtain ⟨front, inner, back, rfl, hfront, rfl, rfl⟩ := runs_andThen.mp h
      obtain ⟨hinner, hruns⟩ := (ih reply).mp hfront
      exact ⟨by simp [hinner], reply, front, by simp, hruns⟩
    · rintro ⟨hgiven, reply, rest, rfl, h⟩
      refine ⟨reply, rest, rfl, runs_andThen.mpr ⟨rest, (r.1, rest), [], by simp, ?_, rfl, ?_⟩⟩
      · exact (ih reply).mpr ⟨rfl, h⟩
      · rw [← hgiven]

/-- What a host drives a program to is what the program comes to through their exchanges. -/
theorem runs_of_drive {σ : Type} {h : Host I σ} {p : Program I α} {s : σ} {d : Driven I σ α}
    (hd : p.drive h s = some d) : Runs p d.exchanges d.result := by
  induction p generalizing s d with
  | done a =>
    simp only [drive, Option.some.injEq] at hd
    subst hd
    exact ⟨rfl, rfl⟩
  | halted why => simp [drive] at hd
  | perform c next ih =>
    simp only [drive, Option.map_eq_some_iff] at hd
    obtain ⟨inner, hinner, rfl⟩ := hd
    exact ⟨(h s c).1, inner.exchanges, rfl, ih (h s c).1 hinner⟩

theorem drive_perform {σ : Type} (h : Host I σ) (s : σ) (c : I.Call)
    (next : I.Reply c → Program I α) : (Program.perform c next).drive h s =
      ((next (h s c).1).drive h (h s c).2).map (·.after [⟨c, (h s c).1⟩]) := rfl

/-- A host drives a program and then the one that follows it. -/
theorem drive_bind {σ : Type} (h : Host I σ) (s : σ) (p : Program I α) (f : α → Program I β) :
    (p >>= f).drive h s = (p.drive h s).bind fun d =>
      ((f d.result).drive h d.state).map (·.after d.exchanges) := by
  change (andThen f p).drive h s = _
  induction p generalizing s with
  | done a =>
    change (f a).drive h s = ((f a).drive h s).map (·.after [])
    cases (f a).drive h s <;> rfl
  | halted why => rfl
  | perform c next ih =>
    simp only [andThen, drive, ih]
    cases (next (h s c).1).drive h (h s c).2 with
    | none => rfl
    | some d => cases hrest : (f d.result).drive h d.state <;> simp [Driven.after, hrest]

end Runbook.Program
