import Runbook.Text.Blank
import Runbook.Workspace

/-!
The truth of conditions. A condition is read from left to right only as far as needed, so besides
its truth it matters which files are looked up, and in which order. The lookup may be an effect of
any kind.
-/

namespace Runbook.Condition

def valueIs (w : Workspace) (entry : String × String) : Bool := w.value? entry.1 == some entry.2

section

variable {m : Type → Type} [Monad m] (w : Workspace) (isFile : FilePath → m Bool)

mutual

def evaluate : Condition → m Bool
  | .fileExists path => isFile (trimmed path)
  | .varExists name => pure (w.isBound name)
  | .varEquals expected => pure (expected.all (valueIs w))
  | .hasVar name => pure (w.isBound name)
  | .factStatus fact expected => pure (w.factStatus fact == expected)
  | .lastStep success => pure (w.lastOutcome?.any (·.success == success))
  | .choiceMade option => pure (w.choices.isBound option)
  | .all conditions => evaluateAll conditions
  | .any conditions => evaluateAny conditions
  | .not condition => do return !(← evaluate condition)

/-- Whether all conditions hold; the first that does not is the last one read. -/
def evaluateAll : List Condition → m Bool
  | [] => pure true
  | c :: rest => do if ← evaluate c then evaluateAll rest else pure false

/-- Whether one of the conditions holds; the first that does is the last one read. -/
def evaluateAny : List Condition → m Bool
  | [] => pure false
  | c :: rest => do if ← evaluate c then pure true else evaluateAny rest

end

end

def lookUp (isFile : FilePath → Bool) (path : FilePath) : StateM (List FilePath) Bool :=
  fun paths => (isFile path, paths ++ [path])

/-- Whether a condition holds, and the paths looked up, in order. -/
def evaluation (w : Workspace) (isFile : FilePath → Bool) (c : Condition) : Bool × List FilePath :=
  evaluate w (lookUp isFile) c []

def located (root : Option FilePath) (path : FilePath) : FilePath :=
  match root with
  | some root => root.join path
  | none => path

end Runbook.Condition
