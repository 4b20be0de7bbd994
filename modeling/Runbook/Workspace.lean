import Runbook.Workflow.Basic

/-!
The workspace of a run: variables, facts and choices by name, and the outcomes of the steps taken.
-/

namespace Runbook

/-- What is known to be so: a truth value or a text. -/
inductive Fact where
  | bool (value : Bool)
  | text (value : String)
  deriving DecidableEq, Repr

def Fact.asText : Fact → String
  | .bool b => if b then "true" else "false"
  | .text s => s

structure StepOutcome where
  success : Bool
  exitCode : Option Int
  deriving DecidableEq, Repr

structure Workspace where
  vars : Bindings String
  facts : Bindings Fact
  choices : Bindings String
  outcomes : Bindings StepOutcome Nat
  last : Option Nat
  deriving DecidableEq, Repr

namespace Workspace

def empty : Workspace := ⟨[], [], [], [], none⟩

def setVariable (w : Workspace) (name value : String) : Workspace :=
  { w with vars := w.vars.bind name value }

def setFact (w : Workspace) (name : String) (value : Fact) : Workspace :=
  { w with facts := w.facts.bind name value }

def setChoice (w : Workspace) (name value : String) : Workspace :=
  { w with choices := w.choices.bind name value }

def setOutcome (w : Workspace) (index : Nat) (outcome : StepOutcome) : Workspace :=
  { w with outcomes := w.outcomes.bind index outcome, last := some index }

def variableNamed? (w : Workspace) (name : String) : Option String := w.vars.find? name

def factNamed? (w : Workspace) (name : String) : Option Fact := w.facts.find? name

def choiceNamed? (w : Workspace) (name : String) : Option String := w.choices.find? name

def outcome? (w : Workspace) (index : Nat) : Option StepOutcome := w.outcomes.find? index

/-- The outcome recorded last. -/
def lastOutcome? (w : Workspace) : Option StepOutcome := w.last.bind w.outcome?

def factStatus (w : Workspace) (name : String) : FactStatus :=
  match w.factNamed? name with
  | none => .pending
  | some (.bool false) => .failed
  | some (.text "failed") => .failed
  | some _ => .ready

/-- The value of a variable, or else the text of the fact of that name. -/
def value? (w : Workspace) (name : String) : Option String :=
  match w.variableNamed? name with
  | some value => some value
  | none => (w.factNamed? name).map Fact.asText

/-- The value of a variable, a fact or a choice, in this order. -/
def binding? (w : Workspace) (name : String) : Option String :=
  match w.value? name with
  | some value => some value
  | none => w.choiceNamed? name

def isBound (w : Workspace) (name : String) : Bool :=
  w.vars.isBound name || w.facts.isBound name

/-- Takes over the facts and the variables of a branch, which win over the workspace's own. -/
def merge (w branch : Workspace) : Workspace :=
  { w with facts := w.facts.union branch.facts, vars := w.vars.union branch.vars }

@[simp] theorem variableNamed?_setVariable (w : Workspace) (name other value : String) :
    (w.setVariable name value).variableNamed? other =
      if name = other then some value else w.variableNamed? other :=
  Bindings.find?_bind ..

theorem variableNamed?_merge (w branch : Workspace) (name : String) :
    (w.merge branch).variableNamed? name =
      (branch.variableNamed? name).or (w.variableNamed? name) :=
  Bindings.find?_union ..

@[simp] theorem lastOutcome?_setOutcome (w : Workspace) (index : Nat) (outcome : StepOutcome) :
    (w.setOutcome index outcome).lastOutcome? = some outcome := by
  simp [lastOutcome?, setOutcome, outcome?, Bindings.find?_bind]

end Workspace

end Runbook
