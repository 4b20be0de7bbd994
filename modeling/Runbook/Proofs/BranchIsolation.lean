import Mathlib.Algebra.Ring.Nat
import Runbook.Proofs.HistoryGrammar
import Runbook.Proofs.Timeless

/-!
Branches that know nothing of each other. A host isolates branches if what it replies to one of them
depends on what this branch requested, and on nothing else. Main statement: on such hosts a parallel
step comes to the same end whatever is picked, each branch does the same, and each is taken to its
own end.
-/

namespace Runbook

open Program (Runs)

/-! ### What a branch does -/

/-- Something that a branch does: a command that it requests, a wait, or an event, which counts
without the time that it took. -/
inductive Deed where
  | requested (request : CommandRequest)
  | waited (delay : Duration)
  | recorded (o : Occurrence)
  deriving DecidableEq, Repr

def Effect.deed? (branch : Nat) : Effect → Option Deed
  | .start request => if request.label.branch = some branch then some (.requested request) else none
  | .pause label delay => if label.branch = some branch then some (.waited delay) else none
  | .record o => if o.branch? = some branch then some (.recorded o.untimed) else none
  | _ => none

def deeds (branch : Nat) (es : RunTrace) : List Deed := es.filterMap fun e => e.call.deed? branch

@[simp] theorem deeds_nil (branch : Nat) : deeds branch [] = [] := rfl

@[simp] theorem deeds_append (branch : Nat) (es fs : RunTrace) :
    deeds branch (es ++ fs) = deeds branch es ++ deeds branch fs :=
  List.filterMap_append

theorem deeds_cons (branch : Nat) (e : Exchange Effect.interface) (es : RunTrace) :
    deeds branch (e :: es) = (Effect.deed? branch e.call).toList ++ deeds branch es := by
  unfold deeds
  cases h : Effect.deed? branch e.call <;> simp [h]

/-! ### Hosts that isolate branches -/

abbrev Requests := Nat → List CommandRequest

def Requests.after (past : Requests) : Effect → Requests
  | .start request => fun branch =>
    if request.label.branch = some branch then past branch ++ [request] else past branch
  | _ => past

/-- What there is around the branches: which files exist, and what the last of the commands that a
branch has requested comes to. -/
structure Surroundings where
  isFile : FilePath → Bool
  outcome : Nat → List CommandRequest → CommandOutcome

def Host.exchanges {I : Interface} {σ : Type} (h : Host I σ) (s : σ) :
    List I.Call → List (Exchange I)
  | [] => []
  | c :: rest => ⟨c, (h s c).1⟩ :: exchanges h (h s c).2 rest

namespace Surroundings

variable {σ : Type} (around : Surroundings)

/-- The reply is that of the files, or of the command that the branch has requested. -/
def Gives (past : Requests) : (c : Effect) → c.Reply → Prop
  | .check path, b => b = around.isFile path
  | .finish request, o => ∀ branch, request.label.branch = some branch →
    o = around.outcome branch (past branch)
  | _, _ => True

/-- All replies are those of the files and of the commands. -/
def Explains (past : Requests) : RunTrace → Prop
  | [] => True
  | ⟨c, reply⟩ :: rest => around.Gives past c reply ∧ Explains (past.after c) rest

/-- Whatever it is called for, and in which order, the host replies to each branch by what this
branch has requested so far. -/
def Isolates (h : RunHost σ) (s : σ) (past : Requests) : Prop :=
  ∀ calls : List Effect, around.Explains past (Host.exchanges h s calls)

variable {around} {h : RunHost σ} {s : σ} {past : Requests}

theorem Isolates.gives (hi : around.Isolates h s past) (c : Effect) :
    around.Gives past c (h s c).1 :=
  (hi [c]).1

theorem Isolates.next (hi : around.Isolates h s past) (c : Effect) :
    around.Isolates h (h s c).2 (past.after c) :=
  fun calls => (hi (c :: calls)).2

variable (around)

/-- The host of a branch that is alone; its state is what the branch has requested so far. -/
def alone (branch : Nat) : RunHost (List CommandRequest) := fun past c => match c with
  | .check path => (around.isFile path, past)
  | .start request => ((), past ++ [request])
  | .finish _ => (around.outcome branch past, past)
  | .record _ => (⟨"", ⟨0, 0⟩⟩, past)
  | .clock => (⟨"", ⟨0, 0⟩⟩, past)
  | .ask _ => (.error "", past)
  | .pick _ => (0, past)
  | .display _ => ((), past)
  | .pause _ _ => ((), past)
  | .save _ => ((), past)

end Surroundings

namespace Task

variable {α : Type} {branch : Nat} {p : Task α}

theorem Alike.eq_done {a : α} (h : Alike branch p (.done a)) : p = .done a := by
  cases h
  rfl

theorem Alike.eq_halted {why : Halt} (h : Alike branch p (.halted why)) : p = .halted why := by
  cases h
  rfl

/-- A call of a branch is one that it makes alone as well; other branches notice nothing. -/
theorem Alike.call {around : Surroundings} {past : Requests} {c : Effect}
    {next : c.Reply → Task α} (h : Alike branch p (.perform c next)) {reply : c.Reply}
    (hreply : around.Gives past c reply) :
    ∃ (c' : Effect) (next' : c'.Reply → Task α), p = .perform c' next' ∧
      c'.deed? branch = c.deed? branch ∧
      (around.alone branch (past branch) c').2 = past.after c branch ∧
      Alike branch (next' (around.alone branch (past branch) c').1) (next reply) ∧
      ∀ other, other ≠ branch → c.deed? other = none ∧ past.after c other = past other := by
  cases h with
  | @record o o' next' _ ho huntimed hnext =>
    have ho' : o'.branch? = some branch := by
      rw [← Occurrence.branch?_untimed, huntimed, Occurrence.branch?_untimed, ho]
    refine ⟨.record o, next', rfl, ?_, rfl, hnext _ _, fun other hne => ⟨?_, rfl⟩⟩
    · simp [Effect.deed?, ho, ho', huntimed]
    · simp [Effect.deed?, ho', Ne.symm hne]
  | @clock next' _ hnext => exact ⟨.clock, next', rfl, rfl, rfl, hnext _ _, fun _ _ => ⟨rfl, rfl⟩⟩
  | @same _ next' _ hc hnext =>
    refine ⟨c, next', rfl, rfl, ?_⟩
    cases c with
    | display d => exact ⟨rfl, hnext _, fun _ _ => ⟨rfl, rfl⟩⟩
    | check path =>
      obtain rfl : reply = around.isFile path := hreply
      exact ⟨rfl, hnext _, fun _ _ => ⟨rfl, rfl⟩⟩
    | start request =>
      have hlabel : request.label.branch = some branch := hc
      refine ⟨by simp [Surroundings.alone, Requests.after, hlabel], hnext _, fun other hne => ?_⟩
      simp [Effect.deed?, Requests.after, hlabel, Ne.symm hne]
    | finish request =>
      have hlabel : request.label.branch = some branch := hc
      obtain rfl : reply = around.outcome branch (past branch) := hreply branch hlabel
      exact ⟨rfl, hnext _, fun _ _ => ⟨rfl, rfl⟩⟩
    | pause label delay =>
      have hlabel : label.branch = some branch := hc
      refine ⟨rfl, hnext _, fun other hne => ⟨?_, rfl⟩⟩
      simp [Effect.deed?, hlabel, Ne.symm hne]
    | _ => exact hc.elim

end Task

/-! ### Branches together and alone -/

namespace Pool

open Program

variable {α : Type} (around : Surroundings)

/-- What each of the programs of branches comes to alone, after what it requested so far. -/
def solos (past : Requests) (ps : List (Task α)) :
    List (Option (RunDriven (List CommandRequest) α)) :=
  ps.mapIdx fun i p => p.drive (around.alone i) (past i)

structure AllAlike (ps qs : List (Task α)) : Prop where
  length_eq : ps.length = qs.length
  alike : ∀ i p q, ps[i]? = some p → qs[i]? = some q → Task.Alike i p q

def calls {σ : Type} (ds : List (RunDriven σ α)) : Nat := (ds.map (·.exchanges.length)).sum

variable {around} {σ : Type} {h : RunHost σ} {s : σ} {past : Requests} {ps qs : List (Task α)}

theorem AllAlike.set (hall : AllAlike ps qs) {i : Nat} {p q : Task α}
    (hpq : Task.Alike i p q) : AllAlike (ps.set i p) (qs.set i q) := by
  refine ⟨by simp [hall.length_eq], fun j p' q' hp hq => ?_⟩
  by_cases hij : i = j
  · subst hij
    have hi : i < ps.length := by simpa using (List.getElem?_eq_some_iff.mp hp).1
    rw [List.getElem?_set_self hi] at hp
    rw [List.getElem?_set_self (hall.length_eq ▸ hi)] at hq
    obtain rfl := Option.some.inj hp
    obtain rfl := Option.some.inj hq
    exact hpq
  · rw [List.getElem?_set_ne hij] at hp hq
    exact hall.alike j p' q' hp hq

theorem getElem?_solos {i : Nat} {p : Task α} (hp : ps[i]? = some p) :
    (solos around past ps)[i]? = some (p.drive (around.alone i) (past i)) := by
  simp [solos, hp]

theorem solos_set (past past' : Requests) {i : Nat} (hpast : ∀ j, j ≠ i → past' j = past j)
    (p : Task α) : solos around past' (ps.set i p) =
      (solos around past ps).set i (p.drive (around.alone i) (past' i)) := by
  refine List.ext_getElem? fun j => ?_
  by_cases hij : i = j
  · subst hij
    by_cases hi : i < ps.length <;> simp [solos, hi]
  · have hj := hpast j (Ne.symm hij)
    simp [solos, List.getElem?_set_ne hij, hj]

theorem sum_set_succ {l : List Nat} {i n : Nat} (h : l[i]? = some n) :
    (l.set i (n + 1)).sum = l.sum + 1 := by
  induction l generalizing i with
  | nil => simp at h
  | cons m rest ih =>
    cases i with
    | zero =>
      obtain rfl : m = n := by simpa using h
      simp only [List.set_cons_zero, List.sum_cons]
      omega
    | succ i =>
      have hrest := ih (by simpa using h)
      simp only [List.set_cons_succ, List.sum_cons, hrest]
      omega

theorem calls_set {ds : List (RunDriven σ α)} {i : Nat} {d d' : RunDriven σ α}
    (hi : ds[i]? = some d) (hd : d'.exchanges.length = d.exchanges.length + 1) :
    calls (ds.set i d') = calls ds + 1 := by
  unfold calls
  rw [List.map_set, hd]
  exact sum_set_succ (by simp [hi])

theorem calls_done (as : List α) (states : Nat → σ) :
    calls (as.mapIdx fun i a => (⟨a, states i, []⟩ : RunDriven σ α)) = 0 := by
  induction as generalizing states with
  | nil => rfl
  | cons a rest ih =>
    rw [List.mapIdx_cons]
    exact (Nat.zero_add _).trans (ih fun i => states (i + 1))

/-- Programs that are done come to their results alone as well, without a call. -/
theorem solos_done (hall : AllAlike ps qs) {as : List α} (hqs : qs = as.map .done) :
    solos around past ps = (as.mapIdx fun i a => ⟨a, past i, []⟩).map some := by
  refine List.ext_getElem (by simp [solos, hall.length_eq, hqs]) fun i hi hi' => ?_
  have hps : i < ps.length := by simpa [solos] using hi
  have has : i < as.length := by simpa using hi'
  have hdone : ps[i] = .done as[i] :=
    (hall.alike i ps[i] (.done as[i]) (List.getElem?_eq_getElem hps) (by simp [hqs, has])).eq_done
  simp [solos, hdone, drive]

/-- Programs that come to their ends alone are not halted. -/
theorem not_halted_of_solos (hall : AllAlike ps qs)
    {ds : List (RunDriven (List CommandRequest) α)} (hds : solos around past ps = ds.map some) :
    qs.findSome? Program.halt? = none := by
  refine List.findSome?_eq_none_iff.mpr fun q hq => ?_
  obtain ⟨i, hi, rfl⟩ := List.getElem_of_mem hq
  have hi' : i < ps.length := by rwa [hall.length_eq]
  have hp : ps[i]? = some ps[i] := List.getElem?_eq_getElem hi'
  have halike := hall.alike i _ _ hp (List.getElem?_eq_getElem hi)
  cases hqi : qs[i] with
  | done _ => rfl
  | perform _ _ => rfl
  | halted why =>
    rw [hqi] at halike
    have hown := congrArg (·[i]?) hds
    simp only [getElem?_solos hp, halike.eq_halted, drive, List.getElem?_map] at hown
    cases hget : ds[i]? <;> simp [hget] at hown

/-- A turn of a pool: after a pick, one of the programs that are not done makes its call. -/
theorem drive_join_succ (h : RunHost σ) (s : σ) (hhalt : qs.findSome? Program.halt? = none)
    (hwaiting : waiting qs ≠ []) (turns : Nat) :
    ∃ places i, ∃ q : Task α, qs[i]? = some q ∧ q.result? = none ∧
      (join Task.pick qs (turns + 1)).drive h s = match q with
        | .perform c next =>
          let s' := (h s (.pick places)).2
          ((join Task.pick (qs.set i (next (h s' c).1)) turns).drive h (h s' c).2).map
            (·.after [⟨.pick places, (h s (.pick places)).1⟩, ⟨c, (h s' c).1⟩])
        | _ => none := by
  rw [join, hhalt]
  cases hplaces : waiting qs with
  | nil => exact absurd hplaces hwaiting
  | cons first others =>
    have hmem := place_mem first others (h s (.pick (first :: others))).1
    generalize hplace : (if (first :: others).contains (h s (.pick (first :: others))).1 then
      (h s (.pick (first :: others))).1 else first) = place at hmem
    rw [← hplaces] at hmem
    obtain ⟨q, hq, hresult⟩ := exists_of_mem_waiting hmem
    refine ⟨first :: others, place, q, hq, hresult, ?_⟩
    have hpick : (Task.pick (first :: others)).drive h s = some
      ⟨(h s (.pick (first :: others))).1, (h s (.pick (first :: others))).2,
        [⟨.pick (first :: others), (h s (.pick (first :: others))).1⟩]⟩ := rfl
    simp only [drive_bind, hpick, Option.bind_some, hplace, hq]
    cases q with
    | done a => rfl
    | halted why => rfl
    | perform c next =>
      simp only [drive, Option.map_map]
      rfl

/-- Where a host takes the programs of branches to their ends, each of them comes to its end alone.
-/
theorem solos_of_join (hiso : around.Isolates h s past) (hall : AllAlike ps qs) {turns : Nat}
    {d : RunDriven σ (List α)} (hd : (join Task.pick qs turns).drive h s = some d) :
    ∃ ds, solos around past ps = ds.map some ∧ calls ds < turns := by
  induction turns generalizing s past ps qs d with
  | zero => simp [join, drive] at hd
  | succ turns ih =>
    by_cases hwaiting : waiting qs = []
    · obtain ⟨as, hqs⟩ := eq_done_of_waiting_nil hwaiting
      exact ⟨_, solos_done hall hqs, by rw [calls_done]; omega⟩
    · have hhalt := not_halted_of_runs (runs_of_drive hd)
      obtain ⟨places, i, q, hq, _, hturn⟩ := drive_join_succ h s hhalt hwaiting turns
      rw [hturn] at hd
      cases q with
      | done a => simp at hd
      | halted why => simp at hd
      | perform c next =>
        obtain ⟨inner, hinner, rfl⟩ := Option.map_eq_some_iff.mp hd
        have hpicked : around.Isolates h (h s (.pick places)).2 past := hiso.next (.pick places)
        have hi : i < ps.length := hall.length_eq ▸ (List.getElem?_eq_some_iff.mp hq).1
        have hp : ps[i]? = some ps[i] := List.getElem?_eq_getElem hi
        obtain ⟨c', next', hperform, _, hstate, hnext, hothers⟩ :=
          (hall.alike i _ _ hp hq).call (hpicked.gives c)
        obtain ⟨ds, hds, hcalls⟩ := ih (hpicked.next c) (hall.set hnext) hinner
        rw [solos_set past _ fun j hj => (hothers j hj).2] at hds
        have hlen : i < (solos around past ps).length := by simpa [solos] using hi
        have hrest := congrArg (·[i]?) hds
        simp only [List.getElem?_set_self hlen, List.getElem?_map] at hrest
        obtain ⟨rest, hrest, hdrive⟩ := Option.map_eq_some_iff.mp hrest.symm
        -- alone the program makes the same call, and then goes on
        have hown : ps[i].drive (around.alone i) (past i) =
            some (rest.after [⟨c', (around.alone i (past i) c').1⟩]) := by
          rw [hperform, drive_perform, hstate, ← hdrive]
          rfl
        refine ⟨ds.set i (rest.after [⟨c', (around.alone i (past i) c').1⟩]), ?_, ?_⟩
        · rw [List.map_set, ← hds, List.set_set]
          exact (set_eq_self_of_getElem? ((getElem?_solos hp).trans (congrArg some hown))).symm
        · rw [calls_set hrest (by simp [Driven.after, Nat.add_comm])]
          omega

section FirstCall

variable {ds : List (RunDriven σ α)} {i : Nat} {rest : RunDriven σ α}
  {e : Exchange Effect.interface}

theorem set_set_after (hget : ds[i]? = some (rest.after [e])) :
    (ds.set i rest).set i (rest.after [e]) = ds := by
  rw [List.set_set]
  exact set_eq_self_of_getElem? hget

theorem calls_of_after (hget : ds[i]? = some (rest.after [e])) :
    calls ds = calls (ds.set i rest) + 1 := by
  have hi : i < ds.length := (List.getElem?_eq_some_iff.mp hget).1
  refine (congrArg calls (set_set_after hget)).symm.trans
    (calls_set (List.getElem?_set_self hi) ?_)
  simp [Driven.after, Nat.add_comm]

theorem results_of_after (hget : ds[i]? = some (rest.after [e])) :
    (ds.set i rest).map (·.result) = ds.map (·.result) := by
  rw [List.map_set]
  exact set_eq_self_of_getElem? (by simp [hget, Driven.after])

theorem deeds_of_after (hget : ds[i]? = some (rest.after [e])) (branch : Nat) :
    (ds[branch]?.map fun own => deeds branch own.exchanges).getD [] =
      (if i = branch then (e.call.deed? branch).toList else []) ++
        ((ds.set i rest)[branch]?.map fun own => deeds branch own.exchanges).getD [] := by
  by_cases hbranch : i = branch
  · subst hbranch
    rw [List.getElem?_set_self (List.getElem?_eq_some_iff.mp hget).1, hget, if_pos rfl]
    exact deeds_cons i e rest.exchanges
  · rw [List.getElem?_set_ne hbranch, if_neg hbranch]
    rfl

end FirstCall

/-- Where each of the programs of branches comes to its end alone, a host takes all of them to the
same ends, in whatever order, and each does what it does alone. -/
theorem join_of_solos (hiso : around.Isolates h s past) (hall : AllAlike ps qs)
    {ds : List (RunDriven (List CommandRequest) α)} (hds : solos around past ps = ds.map some)
    {turns : Nat} (hturns : calls ds < turns) :
    ∃ d, (join Task.pick qs turns).drive h s = some d ∧ d.result = ds.map (·.result) ∧
      ∀ branch, deeds branch d.exchanges =
        (ds[branch]?.map fun own => deeds branch own.exchanges).getD [] := by
  induction turns generalizing s past ps qs ds with
  | zero => omega
  | succ turns ih =>
    have hhalt := not_halted_of_solos hall hds
    by_cases hwaiting : waiting qs = []
    · obtain ⟨as, hqs⟩ := eq_done_of_waiting_nil hwaiting
      rw [solos_done hall hqs] at hds
      obtain rfl := List.map_injective_iff.mpr (fun _ _ => Option.some.inj) hds
      refine ⟨⟨as, s, []⟩, ?_, ?_, fun branch => ?_⟩
      · rw [join, hhalt, hwaiting, hqs, filterMap_result?_done]
        rfl
      · exact List.ext_getElem (by simp) (by simp)
      · cases hget : as[branch]? <;> simp [hget]
    · obtain ⟨places, i, q, hq, hresult, hturn⟩ := drive_join_succ h s hhalt hwaiting turns
      have hpicked : around.Isolates h (h s (.pick places)).2 past := hiso.next (.pick places)
      have hi : i < ps.length := hall.length_eq ▸ (List.getElem?_eq_some_iff.mp hq).1
      have hp : ps[i]? = some ps[i] := List.getElem?_eq_getElem hi
      have halike := hall.alike i _ _ hp hq
      have hown := congrArg (·[i]?) hds
      simp only [getElem?_solos hp, List.getElem?_map] at hown
      obtain ⟨own, hget, hdrive⟩ := Option.map_eq_some_iff.mp hown.symm
      rw [hturn]
      cases q with
      | done a => simp [result?] at hresult
      | halted why => simp [halike.eq_halted, drive] at hdrive
      | perform c next =>
        obtain ⟨c', next', hperform, hdeed, hstate, hnext, hothers⟩ :=
          halike.call (hpicked.gives c)
        rw [hperform, drive_perform, hstate] at hdrive
        obtain ⟨rest, hrest, rfl⟩ := Option.map_eq_some_iff.mp hdrive.symm
        have hset : solos around (past.after c)
            (ps.set i (next' (around.alone i (past i) c').1)) = (ds.set i rest).map some := by
          rw [solos_set past _ fun j hj => (hothers j hj).2, hds, List.map_set, hrest]
        have hcalls := calls_of_after hget
        obtain ⟨d, hd, hresults, hdeeds⟩ := ih (hpicked.next c) (hall.set hnext) hset (by omega)
        refine ⟨d.after _, Option.map_eq_some_iff.mpr ⟨d, hd, rfl⟩,
          hresults.trans (results_of_after hget), fun branch => ?_⟩
        change deeds branch (⟨.pick places, _⟩ :: ⟨c, _⟩ :: d.exchanges) = _
        rw [deeds_cons, deeds_cons, hdeeds, deeds_of_after hget]
        by_cases hbranch : i = branch
        · subst hbranch
          rw [if_pos rfl, hdeed]
          rfl
        · rw [if_neg hbranch, (hothers branch (Ne.symm hbranch)).1]
          rfl

/-- Two hosts that isolate branches in the same way take their programs to the same ends, and each
program does the same on both, whatever they pick. -/
theorem join_independent {τ : Type} {g : RunHost τ} {t : τ} (hh : around.Isolates h s past)
    (hg : around.Isolates g t past) (hall : AllAlike qs qs) {turns : Nat}
    {d : RunDriven σ (List α)} (hd : (join Task.pick qs turns).drive h s = some d) :
    ∃ d', (join Task.pick qs turns).drive g t = some d' ∧ d'.result = d.result ∧
      ∀ branch, deeds branch d'.exchanges = deeds branch d.exchanges := by
  obtain ⟨ds, hds, hturns⟩ := solos_of_join hh hall hd
  obtain ⟨e, he, hresult, hdeeds⟩ := join_of_solos hh hall hds hturns
  obtain ⟨d', hd', hresult', hdeeds'⟩ := join_of_solos hg hall hds hturns
  obtain rfl := Option.some.inj (hd.symm.trans he)
  exact ⟨d', hd', hresult'.trans hresult.symm, fun branch =>
    (hdeeds' branch).trans (hdeeds branch).symm⟩

end Pool

/-! ### Parallel steps -/

namespace Run

variable {bounds : RunBounds} {scope : RunScope} {branches : List Branch} {label : StepLabel}
  {w : Workspace}

theorem allAlike_branchTasks (scope : RunScope) (branches : List Branch) (index : Nat)
    (w : Workspace) : Pool.AllAlike (branchTasks scope branches index w)
      (branchTasks scope branches index w) := by
  refine ⟨rfl, fun i p q hp hq => ?_⟩
  obtain rfl := Option.some.inj (hp.symm.trans hq)
  unfold branchTasks at hp
  rw [List.getElem?_map, List.getElem?_zipIdx, Option.map_map] at hp
  obtain ⟨b, _, rfl⟩ := Option.map_eq_some_iff.mp hp
  simp only [Function.comp_apply, Nat.zero_add]
  exact Branch.alike_take rfl b scope w

def joined (label : StepLabel) (w : Workspace) (ends : List (Except String Branch.End)) :
    Task StepEnd :=
  match mergeBranches true w ends with
  | (.error cause, w) => return ⟨some (label.name ++ " failed: " ++ cause), w⟩
  | (.ok success, w) => do
    Task.display (.parallelFinished label success)
    Task.record (.parallelFinished label.index success)
    return ⟨if success then none else some (label.name ++ " failed"),
      w.setOutcome label.index ⟨success, none⟩⟩

def opened (label : StepLabel) (branches : Nat) : Task Unit := do
  Task.display (.parallelStarted label branches)
  Task.record (.parallelStarted label.index branches)

theorem takeParallel_eq (bounds : RunBounds) (scope : RunScope) (branches : List Branch)
    (label : StepLabel) (w : Workspace) : takeParallel bounds scope branches label w = (do
      opened label branches.length
      let ends ← Pool.join Task.pick (branchTasks scope branches label.index w) bounds.turns
      joined label w ends) := rfl

theorem drive_opened {σ : Type} {around : Surroundings} {past : Requests} {h : RunHost σ} {s : σ}
    (hi : around.Isolates h s past) (label : StepLabel) (branches : Nat) :
    ∃ d, (opened label branches).drive h s = some d ∧ around.Isolates h d.state past ∧
      ∀ branch, deeds branch d.exchanges = [] :=
  ⟨_, rfl, (hi.next (.display _)).next (.record _), fun _ => rfl⟩

/-- What follows ends the same way on every host, and no branch has a part in it. -/
theorem drive_joined (label : StepLabel) (w : Workspace)
    (ends : List (Except String Branch.End)) : ∃ e : StepEnd,
    ∀ {σ : Type} (h : RunHost σ) (s : σ), ∃ d, (joined label w ends).drive h s = some d ∧
      d.result = e ∧ ∀ branch, deeds branch d.exchanges = [] := by
  unfold joined
  split
  · exact ⟨_, fun h s => ⟨_, rfl, rfl, fun _ => rfl⟩⟩
  · exact ⟨_, fun h s => ⟨_, rfl, rfl, fun _ => rfl⟩⟩

def ownEvents (branch : Nat) (es : RunTrace) : List Occurrence :=
  (recorded es).filter fun o => o.branch? = some branch

theorem ownEvents_eq_filterMap (branch : Nat) (es : RunTrace) : ownEvents branch es =
    es.filterMap fun e => (occurrence? e).filter fun o => o.branch? = some branch :=
  List.filter_filterMap

theorem ParallelTaken.branchBlock {es : RunTrace} {e : StepEnd}
    (h : ParallelTaken scope branches label w es e) {i : Nat} {b : Branch}
    (hb : branches[i]? = some b) : ∃ part success,
      BranchBlock scope label.index w b i part success ∧ ownEvents i es = recorded part := by
  cases h with
  | @joined parts woven success opened closed hparts hwoven _ =>
    have block : ∀ (j : Nat) (hj : j < branches.length) (hj' : j < parts.length),
        BranchBlock scope label.index w branches[j] j parts[j].1 parts[j].2.success :=
      fun j hj hj' => (hparts.taken hj hj').branchBlock rfl
    obtain ⟨hlt, rfl⟩ := List.getElem?_eq_some_iff.mp hb
    have hi : i < parts.length := hparts.length_eq ▸ hlt
    refine ⟨_, _, block i hlt hi, ?_⟩
    have hpart : (parts.map Prod.fst)[i]? = some parts[i].1 := by simp [hi]
    have hown : ownEvents i woven = ownEvents i parts[i].1 := by
      rw [ownEvents_eq_filterMap, ownEvents_eq_filterMap]
      refine hwoven.filterMap_eq _ (fun g hg => ?_) hpart fun j other hj hne => ?_
      · rw [← ownEvents_eq_filterMap, ownEvents, recorded_of_isPick hg]
        rfl
      · obtain ⟨hlen, rfl⟩ := List.getElem?_eq_some_iff.mp hj
        have hj' : j < parts.length := by simpa using hlen
        rw [← ownEvents_eq_filterMap, List.getElem_map]
        refine List.filter_eq_nil_iff.mpr fun o ho => ?_
        have hbranch := (block j (hparts.length_eq ▸ hj') hj').branch?_of_mem o ho
        simpa [hbranch] using hne
    have hall : ownEvents i parts[i].1 = recorded parts[i].1 :=
      List.filter_eq_self.mpr fun o ho => by simp [(block i hlt hi).branch?_of_mem o ho]
    rw [← hall, ← hown]
    -- around the branches, no event is about one of them
    rw [ownEvents, recorded_joined]
    simp [ownEvents, Occurrence.branch?]

/-- On hosts that isolate branches in the same way a parallel step comes to the same end, with the
same success and the same workspace, whatever is picked and whatever time it is; each branch requests
the same commands, waits the same times and has the same events, and each has a whole block of them,
whatever the others come to. -/
theorem parallel_independent {σ τ : Type} {around : Surroundings} {past : Requests} {h : RunHost σ}
    {g : RunHost τ} {s : σ} {t : τ} (hh : around.Isolates h s past)
    (hg : around.Isolates g t past) (hb : ∀ b ∈ branches, b.IsUnattended)
    {d : RunDriven σ StepEnd}
    (hd : (takeParallel bounds scope branches label w).drive h s = some d) :
    (∃ d', (takeParallel bounds scope branches label w).drive g t = some d' ∧
      d'.result = d.result ∧ ∀ branch, deeds branch d'.exchanges = deeds branch d.exchanges) ∧
    ∀ (i : Nat) (b : Branch), branches[i]? = some b → ∃ part success,
      BranchBlock scope label.index w b i part success ∧
        ownEvents i d.exchanges = recorded part := by
  have htaken := parallelTaken_of_runs hb (Program.runs_of_drive hd)
  refine ⟨?_, fun i b hbranch => htaken.branchBlock hbranch⟩
  rw [takeParallel_eq, Program.drive_bind] at hd
  obtain ⟨start, hstart, hstep⟩ := Option.bind_eq_some_iff.mp hd
  obtain ⟨whole, hwhole, rfl⟩ := Option.map_eq_some_iff.mp hstep
  rw [Program.drive_bind] at hwhole
  obtain ⟨ends, hjoin, hrest⟩ := Option.bind_eq_some_iff.mp hwhole
  obtain ⟨last, hlast, rfl⟩ := Option.map_eq_some_iff.mp hrest
  obtain ⟨start₀, hstart₀, hopened, hnothing⟩ := drive_opened hh label branches.length
  obtain rfl := Option.some.inj (hstart.symm.trans hstart₀)
  obtain ⟨start', hstart', hopened', hnothing'⟩ := drive_opened hg label branches.length
  obtain ⟨ends', hjoin', hresult, hdeeds⟩ :=
    Pool.join_independent hopened hopened' (allAlike_branchTasks ..) hjoin
  obtain ⟨e, hend⟩ := drive_joined label w ends.result
  obtain ⟨last₀, hlast₀, he, hnone⟩ := hend h ends.state
  obtain rfl := Option.some.inj (hlast.symm.trans hlast₀)
  obtain ⟨last', hlast', he', hnone'⟩ := hend g ends'.state
  refine ⟨(last'.after ends'.exchanges).after start'.exchanges, ?_, he'.trans he.symm, ?_⟩
  · rw [takeParallel_eq, Program.drive_bind, hstart', Option.bind_some, Program.drive_bind, hjoin',
      Option.bind_some, hresult, hlast']
    rfl
  · intro branch
    simp [Driven.after, hdeeds, hnone, hnone', hnothing, hnothing']

end Run

namespace Rehearsal

/-- A rehearsal in which the branch that goes on is picked by a rule of its own. -/
def picking (choose : List Nat → Nat) : RunHost Rehearsal := fun r effect => match effect with
  | .pick places => (choose places, r)
  | other => host r other

/-- A rehearsal without a script for single commands: some files, and one outcome for all. -/
structure IsSteady (files : List FilePath) (o : CommandOutcome) (r : Rehearsal) : Prop where
  outcomes : r.outcomes = []
  otherwise : r.otherwise = o
  files : r.files = files

variable {files : List FilePath} {o : CommandOutcome} {r : Rehearsal}

theorem IsSteady.outcome (h : r.IsSteady files o) (command : String) :
    r.outcome command = (o, r) := by
  unfold Rehearsal.outcome
  rw [h.outcomes, ← h.otherwise]
  rfl

theorem IsSteady.next (h : r.IsSteady files o) (choose : List Nat → Nat) (c : Effect) :
    (picking choose r c).2.IsSteady files o := by
  obtain ⟨houtcomes, hotherwise, hfiles⟩ := h
  cases c with
  | display d => cases d <;> exact ⟨houtcomes, hotherwise, hfiles⟩
  | finish request =>
    change (r.outcome request.command).2.IsSteady files o
    rw [IsSteady.outcome ⟨houtcomes, hotherwise, hfiles⟩]
    exact ⟨houtcomes, hotherwise, hfiles⟩
  | ask question =>
    change (r.answer question).2.IsSteady files o
    unfold answer
    split <;> exact ⟨houtcomes, hotherwise, hfiles⟩
  | pause label delay =>
    change (r.pause label.branch delay).IsSteady files o
    unfold pause
    split <;> exact ⟨houtcomes, hotherwise, hfiles⟩
  | _ => exact ⟨houtcomes, hotherwise, hfiles⟩

theorem IsSteady.isolates (h : r.IsSteady files o) (choose : List Nat → Nat) (past : Requests) :
    Surroundings.Isolates ⟨fun path => files.contains path, fun _ _ => o⟩ (picking choose) r
      past := by
  intro calls
  induction calls generalizing r past with
  | nil => trivial
  | cons c rest ih =>
    refine ⟨?_, ih (h.next choose c) _⟩
    cases c with
    | check path => exact congrArg (·.contains path) h.files
    | finish request => exact fun _ _ => congrArg Prod.fst (h.outcome request.command)
    | _ => trivial

end Rehearsal

namespace Run

/-- Of two branches the first is tried twice, and the other one fails on purpose. -/
def contendingBranches : List Branch :=
  [⟨none, .run ⟨"first", none, .count 1, none, true, [], []⟩⟩, ⟨none, .fail "stop"⟩]

def contendingScope : RunScope :=
  ⟨⟨none, none, none, [], [⟨none, .parallel contendingBranches⟩], ⟨none, none, []⟩⟩, [], none,
    .standard, 2⟩

def contendingLabel : StepLabel := ⟨0, none, none, "parallel", "2 branch(es)", false⟩

def failing : Rehearsal :=
  ⟨[], ⟨false, some 1, [], [], false, .zero⟩, [], [], .zero, []⟩

theorem parallel_independent_contending :
    ∃ around : Surroundings, ∃ d : RunDriven Rehearsal StepEnd,
      around.Isolates (Rehearsal.picking fun places => places.headD 0) failing (fun _ => []) ∧
      around.Isolates (Rehearsal.picking fun places => places.getLastD 0) failing (fun _ => []) ∧
      (∀ b ∈ contendingBranches, b.IsUnattended) ∧
      (takeParallel ⟨2, 100⟩ contendingScope contendingBranches contendingLabel .empty).drive
        (Rehearsal.picking fun places => places.headD 0) failing = some d ∧
      (∃ d', (takeParallel ⟨2, 100⟩ contendingScope contendingBranches contendingLabel
          .empty).drive (Rehearsal.picking fun places => places.getLastD 0) failing = some d' ∧
        d'.result = d.result ∧ ∀ branch, deeds branch d'.exchanges = deeds branch d.exchanges) ∧
      ∀ (i : Nat) (b : Branch), contendingBranches[i]? = some b → ∃ part success,
        BranchBlock contendingScope 0 .empty b i part success ∧
          ownEvents i d.exchanges = recorded part := by
  have hsteady : failing.IsSteady [] ⟨false, some 1, [], [], false, .zero⟩ := ⟨rfl, rfl, rfl⟩
  have hfirst := hsteady.isolates (fun places => places.headD 0) fun _ => []
  have hlast := hsteady.isolates (fun places => places.getLastD 0) fun _ => []
  have hb : ∀ b ∈ contendingBranches, b.IsUnattended := by
    simp [contendingBranches, Branch.IsUnattended]
  have hd : (takeParallel ⟨2, 100⟩ contendingScope contendingBranches contendingLabel
    .empty).drive (Rehearsal.picking fun places => places.headD 0) failing = some _ := rfl
  exact ⟨_, _, hfirst, hlast, hb, hd, parallel_independent hfirst hlast hb hd⟩

end Run

end Runbook
