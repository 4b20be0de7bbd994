import Runbook.Program

/-!
Contracts of programs: which calls a program may make in a state, and what may come of them. A
program keeps a contract if it makes only calls that are allowed, whatever replies may follow, and
ends in a state and with a result that fit. Main statement: a program that is followed by another
one keeps a contract if it leads to states from which the other one keeps it.
-/

namespace Runbook

/-- What programs have to keep to, seen from a state that their calls change. -/
structure Contract (I : Interface) (S : Type) where
  Allows : S → I.Call → Prop
  /-- The replies to a call in a state, and the states that it leads to with them. -/
  Follows : S → (c : I.Call) → I.Reply c → S → Prop
  /-- A program may be halted, for a reason. -/
  MayHalt : S → Halt → Prop

/-- What a host answers. All calls are allowed, and a program has to come to its end. -/
def Contract.ofHost {I : Interface} {S : Type} (h : Host I S) : Contract I S where
  Allows _ _ := True
  Follows s c reply t := h s c = (reply, t)
  MayHalt _ _ := False

def Contract.unless {I : Interface} {S : Type} (h : Host I S) (may : Halt → Prop) : Contract I S :=
  { Contract.ofHost h with MayHalt := fun _ why => may why }

namespace Program

variable {I : Interface} {S α β : Type} {K : Contract I S}

theorem andThen_assoc {γ : Type} (p : Program I α) (f : α → Program I β) (g : β → Program I γ) :
    andThen g (andThen f p) = andThen (fun a => andThen g (f a)) p := by
  induction p with
  | done a => rfl
  | halted why => rfl
  | perform c next ih => simp only [andThen, ih]

theorem andThen_done (p : Program I α) : andThen .done p = p := by
  induction p with
  | done a => rfl
  | halted why => rfl
  | perform c next ih => simp only [andThen, ih]

instance : LawfulMonad (Program I) :=
  LawfulMonad.mk' (Program I) andThen_done (fun _ _ => rfl) andThen_assoc

/-- From a state on, the program makes only calls that are allowed, and what it ends with fits the
state it ends in. -/
def Keeps (K : Contract I S) (post : S → α → Prop) : S → Program I α → Prop
  | s, .done a => post s a
  | s, .halted why => K.MayHalt s why
  | s, .perform c next =>
    K.Allows s c ∧ ∀ reply t, K.Follows s c reply t → Keeps K post t (next reply)

@[simp] theorem keeps_done {post : S → α → Prop} {s : S} {a : α} :
    Keeps K post s (.done a) ↔ post s a := Iff.rfl

@[simp] theorem keeps_pure {post : S → α → Prop} {s : S} {a : α} :
    Keeps K post s (pure a) ↔ post s a := Iff.rfl

theorem keeps_call {c : I.Call} {post : S → I.Reply c → Prop} {s : S} :
    Keeps K post s (call c) ↔ K.Allows s c ∧ ∀ reply t, K.Follows s c reply t → post t reply :=
  Iff.rfl

theorem keeps_computed {c : Computed α} {post : S → α → Prop} {s : S}
    (h : ∀ a, c = .ok a → post s a) (hover : c = .error .overflow → K.MayHalt s .overflow) :
    Keeps K post s (computed c) := by
  match c with
  | .ok a => exact h a rfl
  | .error .overflow => exact hover rfl

theorem keeps_andThen {p : Program I α} {f : α → Program I β} {post : S → β → Prop} {s : S} :
    Keeps K post s (andThen f p) ↔ Keeps K (fun t a => Keeps K post t (f a)) s p := by
  induction p generalizing s with
  | done a => exact Iff.rfl
  | halted why => exact Iff.rfl
  | perform c next ih =>
    constructor
    · rintro ⟨hallows, hnext⟩
      exact ⟨hallows, fun reply t ht => (ih reply).mp (hnext reply t ht)⟩
    · rintro ⟨hallows, hnext⟩
      exact ⟨hallows, fun reply t ht => (ih reply).mpr (hnext reply t ht)⟩

theorem keeps_bind {p : Program I α} {f : α → Program I β} {post : S → β → Prop} {s : S} :
    Keeps K post s (p >>= f) ↔ Keeps K (fun t a => Keeps K post t (f a)) s p := keeps_andThen

theorem Keeps.mono {p : Program I α} {post weaker : S → α → Prop} {s : S}
    (h : Keeps K post s p) (hpost : ∀ t a, post t a → weaker t a) : Keeps K weaker s p := by
  induction p generalizing s with
  | done a => exact hpost s a h
  | halted why => exact h
  | perform c next ih => exact ⟨h.1, fun reply t ht => ih reply (h.2 reply t ht)⟩

/-- A program that may end in an error, which ends those that come after it as well. -/
theorem keeps_except_bind {ε : Type} {p : ExceptT ε (Program I) α}
    {f : α → ExceptT ε (Program I) β} {post : S → Except ε β → Prop} {s : S}
    (h : Keeps K (fun t r => match r with
      | .ok a => Keeps K post t (f a).run
      | .error e => post t (.error e)) s p.run) : Keeps K post s (p >>= f).run := by
  rw [ExceptT.run_bind, keeps_bind]
  refine h.mono fun t r hr => ?_
  cases r with
  | ok a => exact hr
  | error e => exact hr

theorem keeps_lift {ε : Type} {p : Program I α} {post : S → Except ε α → Prop} {s : S}
    (h : Keeps K (fun t a => post t (.ok a)) s p) :
    Keeps K post s (liftM p : ExceptT ε (Program I) α).run := keeps_andThen.mpr h

/-- With the host that a contract is made of, a program comes to an end that fits, unless it is
halted for one of the reasons. -/
theorem Keeps.finish_or {h : Host I S} {may : Halt → Prop} {p : Program I α} {post : S → α → Prop}
    {s : S} (hp : Keeps (.unless h may) post s p) :
    (∃ a t, p.finish h s = some (a, t) ∧ post t a) ∨ p.finish h s = none ∧ ∃ why, may why := by
  induction p generalizing s with
  | done a => exact .inl ⟨a, s, rfl, hp⟩
  | halted why => exact .inr ⟨rfl, why, hp⟩
  | perform c next ih => exact ih _ (hp.2 (h s c).1 (h s c).2 rfl)

theorem Keeps.finish {h : Host I S} {p : Program I α} {post : S → α → Prop} {s : S}
    (hp : Keeps (.ofHost h) post s p) : ∃ a t, p.finish h s = some (a, t) ∧ post t a := by
  have hnever : Keeps (.unless h fun _ => False) post s p := hp
  exact hnever.finish_or.resolve_right fun ⟨_, _, hwhy⟩ => hwhy

/-- A program that came to an end comes to nothing else. -/
theorem keeps_of_finish {h : Host I S} {p : Program I α} {s t : S} {a : α}
    (hfinish : p.finish h s = some (a, t)) :
    Keeps (.ofHost h) (fun u r => u = t ∧ r = a) s p := by
  induction p generalizing s with
  | done b =>
    obtain ⟨rfl, rfl⟩ := Prod.mk.inj (Option.some.inj hfinish)
    exact ⟨rfl, rfl⟩
  | halted why => cases hfinish
  | perform c next ih =>
    refine ⟨trivial, fun reply u hfollows => ih reply ?_⟩
    obtain ⟨rfl, rfl⟩ := Prod.mk.inj hfollows.symm
    exact hfinish

theorem Keeps.unless {h : Host I S} {p : Program I α} {post : S → α → Prop} {s : S}
    (hp : Keeps (.ofHost h) post s p) {may : Halt → Prop} : Keeps (.unless h may) post s p := by
  induction p generalizing s with
  | done a => exact hp
  | halted why => exact False.elim hp
  | perform c next ih => exact ⟨trivial, fun reply t ht => ih reply (hp.2 reply t ht)⟩

theorem Keeps.fits {h : Host I S} {may : Halt → Prop} {p : Program I α} {post : S → α → Prop} {s t : S}
    {a : α} (hp : Keeps (.unless h may) post s p) (hfinish : p.finish h s = some (a, t)) :
    post t a := by
  induction p generalizing s with
  | done b =>
    obtain ⟨rfl, rfl⟩ := Prod.mk.inj (Option.some.inj hfinish)
    exact hp
  | halted why => cases hfinish
  | perform c next ih => exact ih _ (hp.2 (h s c).1 (h s c).2 rfl) hfinish

end Program

end Runbook
