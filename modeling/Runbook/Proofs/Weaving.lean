import Mathlib.Data.List.Forall2
import Runbook.Proofs.Trace

/-!
Programs that are driven together. Main statement: whatever is picked, the trace of a pool is woven
of the traces of its programs, each of which comes to its result as it would alone.
-/

namespace Runbook

/-- A list woven of parts: the next entry is the first one that is left of some part, after a gap.
-/
inductive Woven {E : Type} (gap : List E → Prop) : List (List E) → List E → Prop where
  | finished {parts} (h : ∀ part ∈ parts, part = []) : Woven gap parts []
  | turn {parts i e rest g es} (hi : parts[i]? = some (e :: rest)) (hg : gap g)
      (h : Woven gap (parts.set i rest) es) : Woven gap parts (g ++ e :: es)

/-- A list woven of parts without anything between their entries. -/
abbrev Interleaved {E : Type} : List (List E) → List E → Prop := Woven (· = [])

theorem set_eq_self_of_getElem? {E : Type} {l : List E} {i : Nat} {a : E} (h : l[i]? = some a) :
    l.set i a = l := by
  obtain ⟨hi, rfl⟩ := List.getElem?_eq_some_iff.mp h
  exact List.set_getElem_self hi

namespace Woven

variable {E F : Type} {gap : List E → Prop} {parts : List (List E)} {es : List E}

/-- What is taken of the entries of a woven list is interleaved from what is taken of the parts. -/
theorem filterMap (f : E → Option F) (hf : ∀ g, gap g → g.filterMap f = [])
    (h : Woven gap parts es) : Interleaved (parts.map (·.filterMap f)) (es.filterMap f) := by
  induction h with
  | finished h =>
    refine .finished fun part hpart => ?_
    obtain ⟨source, hsource, rfl⟩ := List.mem_map.mp hpart
    simp [h source hsource]
  | @turn parts i e rest g es hi hg _ ih =>
    rw [List.map_set] at ih
    simp only [List.filterMap_append, hf g hg, List.nil_append]
    cases he : f e with
    | none =>
      -- the entry leaves no trace, so neither does its step
      have hpart : (parts.map (·.filterMap f))[i]? = some (rest.filterMap f) := by
        simp [hi, he]
      rw [List.filterMap_cons_none he]
      rwa [set_eq_self_of_getElem? hpart] at ih
    | some b =>
      rw [List.filterMap_cons_some he]
      exact Woven.turn (g := []) (by simp [hi, he]) rfl ih

/-- What is taken of one part only is taken in the order of that part. -/
theorem filterMap_eq (f : E → Option F) (hf : ∀ g, gap g → g.filterMap f = []) {i : Nat}
    {part : List E} (hi : parts[i]? = some part)
    (others : ∀ j other, parts[j]? = some other → j ≠ i → other.filterMap f = [])
    (h : Woven gap parts es) : es.filterMap f = part.filterMap f := by
  induction h generalizing part with
  | finished h => simp [h part (List.mem_of_getElem? hi)]
  | @turn parts j e rest g es hj hg _ ih =>
    simp only [List.filterMap_append, hf g hg, List.nil_append]
    have hlen : j < parts.length := (List.getElem?_eq_some_iff.mp hj).1
    by_cases hij : j = i
    · subst hij
      obtain rfl : e :: rest = part := Option.some.inj (hj.symm.trans hi)
      have hrest : es.filterMap f = rest.filterMap f := by
        refine ih (by simp [hlen]) fun k other hk hne => others k other ?_ hne
        rwa [List.getElem?_set_ne (Ne.symm hne)] at hk
      cases he : f e <;> simp [he, hrest]
    · have hnone := others j (e :: rest) hj hij
      have he : f e = none := by
        cases he : f e with
        | none => rfl
        | some b => simp [he] at hnone
      rw [List.filterMap_cons_none he]
      refine ih (by rwa [List.getElem?_set_ne hij]) fun k other hk hne => ?_
      by_cases hkj : j = k
      · subst hkj
        rw [List.getElem?_set_self hlen] at hk
        obtain rfl : rest = other := Option.some.inj hk
        rwa [List.filterMap_cons_none he] at hnone
      · exact others k other (by rwa [List.getElem?_set_ne hkj] at hk) hne

theorem filterMap_eq_nil (f : E → Option F) (hf : ∀ g, gap g → g.filterMap f = [])
    (hparts : ∀ part ∈ parts, part.filterMap f = []) (h : Woven gap parts es) :
    es.filterMap f = [] := by
  induction h with
  | finished _ => rfl
  | @turn parts i e rest g es hi hg _ ih =>
    have hpart := hparts (e :: rest) (List.mem_of_getElem? hi)
    obtain ⟨he, hrest⟩ := List.forall_mem_cons.mp (List.filterMap_eq_nil_iff.mp hpart)
    rw [List.filterMap_append, hf g hg, List.nil_append, List.filterMap_cons_none he]
    refine ih fun other hother => ?_
    rcases List.mem_or_eq_of_mem_set hother with hother | rfl
    · exact hparts other hother
    · exact List.filterMap_eq_nil_iff.mpr hrest

end Woven

namespace Pool

open Program

variable {I : Interface} {α : Type}

def IsPick (pick : List Nat → Program I Nat) (es : List (Exchange I)) : Prop :=
  ∃ places place, Runs (pick places) es place

theorem eq_done_of_waiting_nil {programs : List (Program I α)} (h : waiting programs = []) :
    ∃ as : List α, programs = as.map .done := by
  have hdone : ∀ p ∈ programs, ∃ a, p = .done a := by
    intro p hp
    obtain ⟨i, hi, rfl⟩ := List.getElem_of_mem hp
    have hmem := List.filter_eq_nil_iff.mp (List.map_eq_nil_iff.mp h) (programs[i], i)
      (by simp [List.mem_zipIdx_iff_getElem?])
    cases hp : programs[i] with
    | done a => exact ⟨a, rfl⟩
    | halted why => simp [hp, result?] at hmem
    | perform c next => simp [hp, result?] at hmem
  clear h
  induction programs with
  | nil => exact ⟨[], rfl⟩
  | cons p rest ih =>
    obtain ⟨a, rfl⟩ := hdone p (by simp)
    obtain ⟨as, rfl⟩ := ih fun q hq => hdone q (by simp [hq])
    exact ⟨a :: as, rfl⟩

@[simp] theorem filterMap_result?_done (as : List α) :
    (as.map (Program.done (I := I))).filterMap Program.result? = as := by
  induction as with
  | nil => rfl
  | cons a rest ih => simpa [result?] using ih

theorem runs_of_waiting_nil {programs : List (Program I α)} (h : waiting programs = []) :
    List.Forall₂ (fun (p : Program I α) (r : List (Exchange I) × α) => Runs p r.1 r.2) programs
      ((programs.filterMap Program.result?).map ([], ·)) := by
  obtain ⟨as, rfl⟩ := eq_done_of_waiting_nil h
  rw [filterMap_result?_done, List.forall₂_map_left_iff, List.forall₂_map_right_iff]
  exact List.forall₂_same.mpr fun a _ => ⟨rfl, rfl⟩

theorem exists_of_mem_waiting {programs : List (Program I α)} {i : Nat}
    (h : i ∈ waiting programs) : ∃ p, programs[i]? = some p ∧ p.result? = none := by
  obtain ⟨⟨p, j⟩, hmem, rfl⟩ := List.mem_map.mp h
  obtain ⟨hp, hresult⟩ := List.mem_filter.mp hmem
  exact ⟨p, List.mem_zipIdx_iff_getElem?.mp hp, Option.isNone_iff_eq_none.mp hresult⟩

theorem place_mem (first : Nat) (others : List Nat) (picked : Nat) :
    (if (first :: others).contains picked then picked else first) ∈ first :: others := by
  split
  · rename_i h
    exact List.contains_iff_mem.mp h
  · exact List.mem_cons_self

theorem not_halted_of_runs {pick : List Nat → Program I Nat} {programs : List (Program I α)}
    {turns : Nat} {es : List (Exchange I)} {results : List α}
    (h : Runs (join pick programs (turns + 1)) es results) :
    programs.findSome? Program.halt? = none := by
  cases hhalt : programs.findSome? Program.halt? with
  | none => rfl
  | some why => simp [join, hhalt] at h

/-- The programs of a pool come to their results through traces of their own, and the trace of the
pool is woven of these and of picks. -/
theorem runs_join {pick : List Nat → Program I Nat} {programs : List (Program I α)} {turns : Nat}
    {es : List (Exchange I)} {results : List α} (h : Runs (join pick programs turns) es results) :
    ∃ runs : List (List (Exchange I) × α),
      List.Forall₂ (fun p r => Runs p r.1 r.2) programs runs ∧ results = runs.map Prod.snd ∧
        Woven (IsPick pick) (runs.map Prod.fst) es := by
  induction turns generalizing programs es with
  | zero => exact (runs_halted h).elim
  | succ turns ih =>
    rw [join, not_halted_of_runs h] at h
    dsimp only at h
    cases hwaiting : waiting programs with
    | nil =>
      rw [hwaiting] at h
      obtain ⟨rfl, rfl⟩ := h
      exact ⟨_, runs_of_waiting_nil hwaiting, by simp [Function.comp_def], .finished (by simp)⟩
    | cons first others =>
      simp only [hwaiting] at h
      obtain ⟨picks, picked, back, rfl, hpicks, hback⟩ := runs_bind.mp h
      generalize (if (first :: others).contains picked then picked else first) = i at hback
      cases hp : programs[i]? with
      | none => simp [hp] at hback
      | some p =>
        obtain ⟨hlt, hget⟩ := List.getElem?_eq_some_iff.mp hp
        cases p with
        | done a => simp [hp] at hback
        | halted why => simp [hp] at hback
        | perform c next =>
          simp only [hp] at hback
          obtain ⟨reply, rest, rfl, hrest⟩ := hback
          obtain ⟨runs, hruns, rfl, hwoven⟩ := ih hrest
          -- the program that went on gets its exchange back at the head of its own trace
          obtain ⟨hlen, hall⟩ := List.forall₂_iff_get.mp hruns
          have hi : i < runs.length := by simpa [← hlen] using hlt
          have hown : Runs (next reply) runs[i].1 runs[i].2 := by
            simpa using hall i (by simpa using hlt) hi
          refine ⟨runs.set i (⟨c, reply⟩ :: runs[i].1, runs[i].2), ?_, ?_, ?_⟩
          · refine List.forall₂_iff_get.mpr ⟨by simpa using hlen, fun j hj hj' => ?_⟩
            by_cases hij : i = j
            · subst hij
              simpa [hget] using ⟨reply, runs[i].1, rfl, hown⟩
            · have := hall j (by simpa using hj) (by simpa using hj')
              simpa [List.getElem_set_ne hij] using this
          · rw [List.map_set]
            exact (set_eq_self_of_getElem? (by simp [hi])).symm
          · have hpart : ((runs.set i (⟨c, reply⟩ :: runs[i].1, runs[i].2)).map Prod.fst)[i]? =
                some (⟨c, reply⟩ :: runs[i].1) := by simp [hi]
            refine Woven.turn hpart ⟨_, _, hpicks⟩ ?_
            rw [List.map_set, List.set_set]
            rwa [set_eq_self_of_getElem? (by simp [hi])]

end Pool

end Runbook
