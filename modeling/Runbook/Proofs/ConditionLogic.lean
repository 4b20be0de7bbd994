import Mathlib.Logic.Relation
import Runbook.Run.Step
import Runbook.Proofs.Contract

/-!
The logic of conditions. Main statement: a condition evaluates to its classical truth, it looks up
the files of its leaves from left to right as far as members are read, and neither changes when
negations are pushed inwards, down to the negation normal form.
-/

namespace Runbook

theorem Workspace.isBound_iff {w : Workspace} {name : String} :
    w.isBound name = true ↔ ∃ value, w.value? name = some value := by
  rw [← Option.isSome_iff_exists]
  unfold isBound value? Bindings.isBound variableNamed? factNamed?
  cases w.vars.find? name <;> simp

namespace Condition

def isLeaf : Condition → Bool
  | .all _ | .any _ | .not _ => false
  | .fileExists _ | .varExists _ | .varEquals _ | .hasVar _ | .factStatus _ _ | .lastStep _
  | .choiceMade _ => true

/-- Induction over the tree of a condition. -/
theorem treeInduction {motive : Condition → Prop} (leaf : ∀ c, c.isLeaf = true → motive c)
    (all : ∀ cs, (∀ c ∈ cs, motive c) → motive (.all cs))
    (any : ∀ cs, (∀ c ∈ cs, motive c) → motive (.any cs))
    (not : ∀ c, motive c → motive (.not c)) : ∀ c, motive c
  | .all cs => all cs fun c _ => treeInduction leaf all any not c
  | .any cs => any cs fun c _ => treeInduction leaf all any not c
  | .not c => not c (treeInduction leaf all any not c)
  | .fileExists _ | .varExists _ | .varEquals _ | .hasVar _ | .factStatus _ _ | .lastStep _
  | .choiceMade _ => leaf _ rfl

/-! ### Truth -/

/-- The classical truth of a condition. A name has the value of a variable, or else the text of a
fact. -/
def Holds (w : Workspace) (isFile : FilePath → Bool) : Condition → Prop
  | .fileExists path => isFile (trimmed path) = true
  | .varExists name => ∃ value, w.value? name = some value
  | .varEquals expected => ∀ entry ∈ expected, w.value? entry.1 = some entry.2
  | .hasVar name => ∃ value, w.value? name = some value
  | .factStatus fact expected => w.factStatus fact = expected
  | .lastStep success => ∃ o, w.lastOutcome? = some o ∧ o.success = success
  | .choiceMade option => ∃ value, w.choiceNamed? option = some value
  | .all cs => ∀ c ∈ cs, Holds w isFile c
  | .any cs => ∃ c, ∃ _ : c ∈ cs, Holds w isFile c
  | .not c => ¬ Holds w isFile c

section Truth

variable {w : Workspace} {isFile : FilePath → Bool}

theorem holds_all {cs : List Condition} :
    Holds w isFile (.all cs) ↔ ∀ c ∈ cs, Holds w isFile c := by
  rw [Holds]

theorem holds_any {cs : List Condition} :
    Holds w isFile (.any cs) ↔ ∃ c ∈ cs, Holds w isFile c := by
  rw [Holds]
  simp

theorem holds_not {c : Condition} : Holds w isFile (.not c) ↔ ¬ Holds w isFile c := by
  rw [Holds]

def truth (w : Workspace) (isFile : FilePath → Bool) (c : Condition) : Bool :=
  Id.run (evaluate w isFile c)

theorem run_evaluateAll_cons (c : Condition) (rest : List Condition) :
    Id.run (evaluateAll w isFile (c :: rest)) =
      (truth w isFile c && Id.run (evaluateAll w isFile rest)) := by
  rw [evaluateAll, Id.run_bind, truth]
  cases Id.run (evaluate w isFile c) <;> rfl

theorem run_evaluateAny_cons (c : Condition) (rest : List Condition) :
    Id.run (evaluateAny w isFile (c :: rest)) =
      (truth w isFile c || Id.run (evaluateAny w isFile rest)) := by
  rw [evaluateAny, Id.run_bind, truth]
  cases Id.run (evaluate w isFile c) <;> rfl

theorem truth_all (cs : List Condition) : truth w isFile (.all cs) = cs.all (truth w isFile) := by
  rw [truth, evaluate]
  induction cs with
  | nil => rfl
  | cons c rest ih => rw [run_evaluateAll_cons, ih, List.all_cons]

theorem truth_any (cs : List Condition) : truth w isFile (.any cs) = cs.any (truth w isFile) := by
  rw [truth, evaluate]
  induction cs with
  | nil => rfl
  | cons c rest ih => rw [run_evaluateAny_cons, ih, List.any_cons]

theorem truth_not (c : Condition) : truth w isFile (.not c) = !truth w isFile c := by
  rw [truth, evaluate]
  rfl

theorem truth_iff (c : Condition) : truth w isFile c = true ↔ Holds w isFile c := by
  induction c using treeInduction with
  | leaf c hc =>
    cases c with
    | fileExists path => rw [Holds]; rfl
    | varExists name => rw [Holds]; exact Workspace.isBound_iff
    | varEquals expected =>
      rw [Holds]
      simp [truth, evaluate, valueIs]
    | hasVar name => rw [Holds]; exact Workspace.isBound_iff
    | factStatus fact expected => simp [truth, evaluate, Holds]
    | lastStep success =>
      rw [Holds]
      cases hlast : w.lastOutcome? <;> simp [truth, evaluate, hlast]
    | choiceMade option => rw [Holds]; exact Option.isSome_iff_exists
    | all cs => cases hc
    | any cs => cases hc
    | not c => cases hc
  | all cs ih =>
    rw [holds_all, truth_all, List.all_eq_true]
    exact forall₂_congr ih
  | any cs ih =>
    rw [holds_any, truth_any, List.any_eq_true]
    exact exists_congr fun c => and_congr_right (ih c)
  | not c ih => rw [holds_not, truth_not, ← ih, Bool.not_eq_true', Bool.not_eq_true]

instance (c : Condition) : Decidable (Holds w isFile c) := decidable_of_iff _ (truth_iff c)

theorem decide_holds (c : Condition) : decide (Holds w isFile c) = truth w isFile c := by
  rw [Bool.eq_iff_iff, decide_eq_true_iff, truth_iff]

end Truth

/-! ### Lookups -/

/-- The members as far as the first one with a property, and all of them if none has it. -/
def upTo (p : Condition → Bool) (cs : List Condition) : List Condition :=
  cs.take (cs.findIdx p + 1)

theorem upTo_cons (p : Condition → Bool) (c : Condition) (rest : List Condition) :
    upTo p (c :: rest) = if p c then [c] else c :: upTo p rest := by
  cases h : p c <;> simp [upTo, List.findIdx_cons, h]

/-- The paths of the leaves that are reached from left to right, where `all` stops at its first
false member and `any` at its first true one. -/
def reached (w : Workspace) (isFile : FilePath → Bool) : Condition → List FilePath
  | .fileExists path => [trimmed path]
  | .all cs => (upTo (fun c => !Holds w isFile c) cs).attach.flatMap fun ⟨c, hc⟩ =>
    have : c ∈ cs := List.mem_of_mem_take hc
    reached w isFile c
  | .any cs => (upTo (fun c => Holds w isFile c) cs).attach.flatMap fun ⟨c, hc⟩ =>
    have : c ∈ cs := List.mem_of_mem_take hc
    reached w isFile c
  | .not c => reached w isFile c
  | .varExists _ | .varEquals _ | .hasVar _ | .factStatus _ _ | .lastStep _ | .choiceMade _ => []

/-- Whether a condition holds, and the paths looked up, in order, as seen from a directory. -/
def evaluationFrom (root : Option FilePath) (w : Workspace) (isFile : FilePath → Bool)
    (c : Condition) : Bool × List FilePath :=
  evaluate w (fun path => lookUp isFile (located root path)) c []

section Lookups

variable {w : Workspace} {isFile : FilePath → Bool} {place : FilePath → FilePath}

theorem reached_all (cs : List Condition) : reached w isFile (.all cs) =
    (upTo (fun c => !Holds w isFile c) cs).flatMap (reached w isFile) := by
  rw [reached]
  simp

theorem reached_any (cs : List Condition) : reached w isFile (.any cs) =
    (upTo (fun c => Holds w isFile c) cs).flatMap (reached w isFile) := by
  rw [reached]
  simp

/-- Evaluated after any lookups, a condition comes to its truth and adds the paths reached in it,
each as it is placed. -/
def LooksUp (w : Workspace) (isFile : FilePath → Bool) (place : FilePath → FilePath)
    (c : Condition) : Prop :=
  ∀ paths, evaluate w (fun path => lookUp isFile (place path)) c paths =
    (decide (Holds w (isFile ∘ place) c), paths ++ (reached w (isFile ∘ place) c).map place)

theorem pure_lookUps (b : Bool) (paths : List FilePath) :
    (pure b : StateM (List FilePath) Bool) paths = (b, paths) := rfl

theorem looksUp_all {cs : List Condition} (h : ∀ c ∈ cs, LooksUp w isFile place c) :
    LooksUp w isFile place (.all cs) := by
  intro paths
  rw [evaluate, reached_all]
  simp only [holds_all]
  induction cs generalizing paths with
  | nil => simp [evaluateAll, upTo, pure_lookUps]
  | cons c rest ih =>
    have hrest := ih fun d hd => h d (List.mem_cons_of_mem c hd)
    simp only [evaluateAll, bind, StateT.bind, h c List.mem_cons_self paths, upTo_cons]
    by_cases hc : Holds w (isFile ∘ place) c
    · simp [hc, hrest]
    · simp [hc, pure_lookUps]

theorem looksUp_any {cs : List Condition} (h : ∀ c ∈ cs, LooksUp w isFile place c) :
    LooksUp w isFile place (.any cs) := by
  intro paths
  rw [evaluate, reached_any]
  simp only [holds_any]
  induction cs generalizing paths with
  | nil => simp [evaluateAny, upTo, pure_lookUps]
  | cons c rest ih =>
    have hrest := ih fun d hd => h d (List.mem_cons_of_mem c hd)
    simp only [evaluateAny, bind, StateT.bind, h c List.mem_cons_self paths, upTo_cons]
    by_cases hc : Holds w (isFile ∘ place) c
    · simp [hc, pure_lookUps]
    · simp [hc, hrest]

theorem looksUp_not {c : Condition} (h : LooksUp w isFile place c) :
    LooksUp w isFile place (.not c) := by
  intro paths
  simp only [evaluate, bind, StateT.bind, h paths, reached, pure_lookUps, holds_not]
  simp

theorem looksUp (c : Condition) : LooksUp w isFile place c := by
  induction c using treeInduction with
  | leaf c hc =>
    intro paths
    rw [decide_holds]
    cases c with
    | fileExists path => rw [reached]; rfl
    | varExists _ | varEquals _ | hasVar _ | factStatus _ _ | lastStep _ | choiceMade _ =>
      rw [reached, List.map_nil, List.append_nil]
      rfl
    | all cs => cases hc
    | any cs => cases hc
    | not c => cases hc
  | all cs ih => exact looksUp_all ih
  | any cs ih => exact looksUp_any ih
  | not c ih => exact looksUp_not ih

theorem evaluationFrom_eq (root : Option FilePath) (c : Condition) :
    evaluationFrom root w isFile c = (decide (Holds w (isFile ∘ located root) c),
      (reached w (isFile ∘ located root) c).map (located root)) :=
  looksUp c []

end Lookups

/-! ### Rewriting -/

/-- A double negation is cancelled, or a negation pushed into a list, anywhere in a condition. -/
inductive PushesNegation : Condition → Condition → Prop
  | double (c : Condition) : PushesNegation (.not (.not c)) c
  | ofAll (cs : List Condition) : PushesNegation (.not (.all cs)) (.any (cs.map .not))
  | ofAny (cs : List Condition) : PushesNegation (.not (.any cs)) (.all (cs.map .not))
  | inNot {c d : Condition} (h : PushesNegation c d) : PushesNegation (.not c) (.not d)
  | inAll (front : List Condition) {c d : Condition} (back : List Condition)
    (h : PushesNegation c d) :
    PushesNegation (.all (front ++ c :: back)) (.all (front ++ d :: back))
  | inAny (front : List Condition) {c d : Condition} (back : List Condition)
    (h : PushesNegation c d) :
    PushesNegation (.any (front ++ c :: back)) (.any (front ++ d :: back))

def Rewrites : Condition → Condition → Prop := Relation.ReflTransGen PushesNegation

section Effects

variable {m : Type → Type} [Monad m] {w : Workspace} {ask : FilePath → m Bool}

theorem evaluateAll_congr {c d : Condition} (h : evaluate w ask c = evaluate w ask d)
    (front back : List Condition) :
    evaluateAll w ask (front ++ c :: back) = evaluateAll w ask (front ++ d :: back) := by
  induction front with
  | nil => rw [List.nil_append, List.nil_append, evaluateAll, evaluateAll, h]
  | cons first rest ih => rw [List.cons_append, List.cons_append, evaluateAll, evaluateAll, ih]

theorem evaluateAny_congr {c d : Condition} (h : evaluate w ask c = evaluate w ask d)
    (front back : List Condition) :
    evaluateAny w ask (front ++ c :: back) = evaluateAny w ask (front ++ d :: back) := by
  induction front with
  | nil => rw [List.nil_append, List.nil_append, evaluateAny, evaluateAny, h]
  | cons first rest ih => rw [List.cons_append, List.cons_append, evaluateAny, evaluateAny, ih]

variable [LawfulMonad m]

theorem evaluate_not (c : Condition) : evaluate w ask (.not c) = Bool.not <$> evaluate w ask c := by
  rw [evaluate, map_eq_pure_bind]

/-- Where all members have to hold, the first that does not is the first negation to hold. -/
theorem evaluateAny_map_not (cs : List Condition) :
    evaluateAny w ask (cs.map .not) = Bool.not <$> evaluateAll w ask cs := by
  induction cs with
  | nil => rw [List.map_nil, evaluateAll, evaluateAny, map_pure, Bool.not_true]
  | cons c rest ih =>
    rw [List.map_cons, evaluateAny, evaluateAll, evaluate_not, ih, bind_map_left, map_bind]
    refine bind_congr fun holds => ?_
    cases holds <;> simp

theorem evaluateAll_map_not (cs : List Condition) :
    evaluateAll w ask (cs.map .not) = Bool.not <$> evaluateAny w ask cs := by
  induction cs with
  | nil => rw [List.map_nil, evaluateAll, evaluateAny, map_pure, Bool.not_false]
  | cons c rest ih =>
    rw [List.map_cons, evaluateAny, evaluateAll, evaluate_not, ih, bind_map_left, map_bind]
    refine bind_congr fun holds => ?_
    cases holds <;> simp

theorem PushesNegation.evaluate_eq {c d : Condition} (h : PushesNegation c d) :
    evaluate w ask d = evaluate w ask c := by
  induction h with
  | double c =>
    rw [evaluate_not, evaluate_not, Functor.map_map]
    simp
  | ofAll cs => rw [evaluate_not, evaluate, evaluate, evaluateAny_map_not]
  | ofAny cs => rw [evaluate_not, evaluate, evaluate, evaluateAll_map_not]
  | inNot _ ih => rw [evaluate_not, evaluate_not, ih]
  | inAll front back _ ih => rw [evaluate, evaluate, evaluateAll_congr ih]
  | inAny front back _ ih => rw [evaluate, evaluate, evaluateAny_congr ih]

/-- Whatever looking up a file does, it is done in the same order, and to the same end. -/
theorem Rewrites.evaluate_eq {c d : Condition} (h : Rewrites c d) :
    evaluate w ask d = evaluate w ask c := by
  induction h with
  | refl => rfl
  | tail _ hstep ih => exact hstep.evaluate_eq.trans ih

end Effects

/-! ### Negation normal form -/

inductive IsNegationNormal : Condition → Prop
  | leaf {c : Condition} (h : c.isLeaf = true) : IsNegationNormal c
  | notLeaf {c : Condition} (h : c.isLeaf = true) : IsNegationNormal (.not c)
  | all {cs : List Condition} (h : ∀ c ∈ cs, IsNegationNormal c) : IsNegationNormal (.all cs)
  | any {cs : List Condition} (h : ∀ c ∈ cs, IsNegationNormal c) : IsNegationNormal (.any cs)

def normalForm : Bool → Condition → Condition
  | false, .all cs => .all (cs.map (normalForm false))
  | true, .all cs => .any (cs.map (normalForm true))
  | false, .any cs => .any (cs.map (normalForm false))
  | true, .any cs => .all (cs.map (normalForm true))
  | negated, .not c => normalForm (!negated) c
  | false, c => c
  | true, c => .not c

theorem normalForm_leaf {c : Condition} (h : c.isLeaf = true) (negated : Bool) :
    normalForm negated c = if negated then .not c else c := by
  cases c with
  | all cs => cases h
  | any cs => cases h
  | not c => cases h
  | fileExists _ | varExists _ | varEquals _ | hasVar _ | factStatus _ _ | lastStep _
  | choiceMade _ => cases negated <;> simp [normalForm]

@[simp] theorem normalForm_not (negated : Bool) (c : Condition) :
    normalForm negated (.not c) = normalForm (!negated) c := by
  rw [normalForm]

@[simp] theorem normalForm_all (negated : Bool) (cs : List Condition) :
    normalForm negated (.all cs) =
      (if negated then Condition.any else Condition.all) (cs.map (normalForm negated)) := by
  cases negated <;> rw [normalForm] <;> rfl

@[simp] theorem normalForm_any (negated : Bool) (cs : List Condition) :
    normalForm negated (.any cs) =
      (if negated then Condition.all else Condition.any) (cs.map (normalForm negated)) := by
  cases negated <;> rw [normalForm] <;> rfl

theorem isNegationNormal_of_mem_map {cs : List Condition}
    (h : ∀ c ∈ cs, ∀ negated, (normalForm negated c).IsNegationNormal) (negated : Bool) :
    ∀ c ∈ cs.map (normalForm negated), c.IsNegationNormal := by
  intro d hd
  obtain ⟨c, hc, rfl⟩ := List.mem_map.mp hd
  exact h c hc negated

theorem isNegationNormal_normalForm (c : Condition) (negated : Bool) :
    (normalForm negated c).IsNegationNormal := by
  induction c using treeInduction generalizing negated with
  | leaf c h =>
    rw [normalForm_leaf h]
    cases negated with
    | false => exact .leaf h
    | true => exact .notLeaf h
  | all cs ih =>
    rw [normalForm_all]
    cases negated with
    | false => exact .all (isNegationNormal_of_mem_map ih false)
    | true => exact .any (isNegationNormal_of_mem_map ih true)
  | any cs ih =>
    rw [normalForm_any]
    cases negated with
    | false => exact .any (isNegationNormal_of_mem_map ih false)
    | true => exact .all (isNegationNormal_of_mem_map ih true)
  | not c ih =>
    rw [normalForm_not]
    exact ih _

theorem IsNegationNormal.normalForm_eq {c : Condition} (h : c.IsNegationNormal) :
    normalForm false c = c := by
  induction h with
  | leaf h => exact normalForm_leaf h false
  | notLeaf h =>
    rw [normalForm_not]
    exact normalForm_leaf h true
  | @all cs _ ih =>
    have hsame : cs.map (normalForm false) = cs.map id := List.map_congr_left ih
    rw [normalForm_all, hsame, List.map_id]
    rfl
  | @any cs _ ih =>
    have hsame : cs.map (normalForm false) = cs.map id := List.map_congr_left ih
    rw [normalForm_any, hsame, List.map_id]
    rfl

section Members

variable {join : List Condition → Condition} {cs : List Condition}
  (hjoin : ∀ front c d back, PushesNegation c d →
    PushesNegation (join (front ++ c :: back)) (join (front ++ d :: back)))

include hjoin

/-- Members are rewritten one after the other; those in front are done. -/
theorem rewrites_map {f : Condition → Condition} (h : ∀ c ∈ cs, Rewrites c (f c))
    (front : List Condition) : Rewrites (join (front ++ cs)) (join (front ++ cs.map f)) := by
  induction cs generalizing front with
  | nil => exact .refl
  | cons c rest ih =>
    have hfirst : Rewrites (join (front ++ c :: rest)) (join (front ++ f c :: rest)) :=
      (h c List.mem_cons_self).lift (fun c => join (front ++ c :: rest)) fun c d =>
        hjoin front c d rest
    have hrest := ih (fun d hd => h d (List.mem_cons_of_mem c hd)) (front ++ [f c])
    simp only [List.append_assoc, List.singleton_append] at hrest
    exact hfirst.trans hrest

theorem rewrites_map_not (h : ∀ c ∈ cs, Rewrites (.not c) (normalForm true c)) :
    Rewrites (join (cs.map .not)) (join (cs.map (normalForm true))) := by
  have hmembers : ∀ c ∈ cs.map Condition.not, Rewrites c (normalForm false c) := by
    intro d hd
    obtain ⟨c, hc, rfl⟩ := List.mem_map.mp hd
    rw [normalForm_not]
    exact h c hc
  have hrest := rewrites_map hjoin hmembers []
  simpa only [List.nil_append, List.map_map, Function.comp_def, normalForm_not, Bool.not_false]
    using hrest

end Members

/-- Both forms are followed down the tree, as a negation asks for the other one. -/
theorem rewrites_normalForm (c : Condition) :
    Rewrites c (normalForm false c) ∧ Rewrites (.not c) (normalForm true c) := by
  induction c using treeInduction with
  | leaf c h =>
    rw [normalForm_leaf h, normalForm_leaf h]
    exact ⟨.refl, .refl⟩
  | all cs ih =>
    rw [normalForm_all, normalForm_all]
    constructor
    · exact rewrites_map (fun front _ _ back => .inAll front back) (fun c hc => (ih c hc).1) []
    · exact .head (.ofAll cs)
        (rewrites_map_not (fun front _ _ back => .inAny front back) fun c hc => (ih c hc).2)
  | any cs ih =>
    rw [normalForm_any, normalForm_any]
    constructor
    · exact rewrites_map (fun front _ _ back => .inAny front back) (fun c hc => (ih c hc).1) []
    · exact .head (.ofAny cs)
        (rewrites_map_not (fun front _ _ back => .inAll front back) fun c hc => (ih c hc).2)
  | not c ih =>
    rw [normalForm_not, normalForm_not]
    exact ⟨ih.2, .head (.double c) ih.1⟩

theorem PushesNegation.normalForm_eq {c d : Condition} (h : PushesNegation c d) (negated : Bool) :
    normalForm negated c = normalForm negated d := by
  induction h generalizing negated with
  | double c => simp
  | ofAll cs => cases negated <;> simp
  | ofAny cs => cases negated <;> simp
  | inNot _ ih => rw [normalForm_not, normalForm_not, ih]
  | inAll front back _ ih => simp [ih]
  | inAny front back _ ih => simp [ih]

theorem Rewrites.normalForm_eq {c d : Condition} (h : Rewrites c d) :
    normalForm false c = normalForm false d := by
  induction h with
  | refl => rfl
  | tail _ hstep ih => exact ih.trans (hstep.normalForm_eq false)

/-- Rewriting ends in one negation normal form only, however it goes. -/
theorem rewrites_normal_iff {c d : Condition} :
    Rewrites c d ∧ d.IsNegationNormal ↔ d = normalForm false c := by
  constructor
  · rintro ⟨hrewrites, hnormal⟩
    rw [hrewrites.normalForm_eq, hnormal.normalForm_eq]
  · rintro rfl
    exact ⟨(rewrites_normalForm c).1, isNegationNormal_normalForm c false⟩

/-- A condition evaluates to its classical truth, and looks up just the paths reached from left to
right, as seen from the directory. Pushing its negations inwards changes neither, nor what a step
under the condition does to find out whether it is due; and it ends in a negation normal form, which
is the same however it is done. -/
theorem classical_and_in_order (w : Workspace) (isFile : FilePath → Bool) (root : Option FilePath)
    (c : Condition) :
    ((evaluationFrom root w isFile c).1 = true ↔ Holds w (isFile ∘ located root) c) ∧
    (evaluationFrom root w isFile c).2 =
      (reached w (isFile ∘ located root) c).map (located root) ∧
    (∀ d, Rewrites c d → evaluationFrom root w isFile d = evaluationFrom root w isFile c ∧
      ∀ scope, Step.isDue (some d) scope w = Step.isDue (some c) scope w) ∧
    ∀ d, Rewrites c d ∧ d.IsNegationNormal ↔ d = normalForm false c := by
  have hevaluation : evaluationFrom root w isFile c = _ := evaluationFrom_eq root c
  refine ⟨?_, ?_, fun d hrewrites => ⟨?_, fun scope => ?_⟩, fun d => rewrites_normal_iff⟩
  · rw [hevaluation, decide_eq_true_iff]
  · rw [hevaluation]
  · rw [evaluationFrom, evaluationFrom, hrewrites.evaluate_eq]
  · rw [Step.isDue, Step.isDue, hrewrites.evaluate_eq]

/-- A negated list whose second member is false, so that its third one is not read. -/
theorem classical_and_in_order_nested :
    let c := Condition.not (.all [.fileExists "a", .any [], .not (.fileExists "b")])
    let d := Condition.any [.not (.fileExists "a"), .all [], .fileExists "b"]
    Rewrites c d ∧
    evaluationFrom (some "/r") .empty (· == "/r/a") d =
      evaluationFrom (some "/r") .empty (· == "/r/a") c ∧
    evaluationFrom (some "/r") .empty (· == "/r/a") d = (true, ["/r/a"]) := by
  intro c d
  have hform := (classical_and_in_order .empty (· == "/r/a") (some "/r") c).2.2.2 d
  have hrewrites : Rewrites c d := (hform.mpr (by simp [c, d, normalForm])).1
  have hsame := (classical_and_in_order .empty (· == "/r/a") (some "/r") c).2.2.1 d hrewrites
  exact ⟨hrewrites, hsame.1, by decide +kernel⟩

end Condition

end Runbook
