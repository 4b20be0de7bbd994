import Runbook.Bindings
import Runbook.Document
import Runbook.Duration

/-!
Outlines: values of the library as documents, for tools that show what it holds. The outline of a
type is a function of that name beside it.
-/

namespace Runbook

namespace Document

def ofNat (n : Nat) : Document := .integer n

def ofOption {α : Type} (f : α → Document) : Option α → Document
  | some a => f a
  | none => .null

def ofTexts (texts : List String) : Document := .list (texts.map .text)

def ofBindings (m : Bindings String) : Document := .object (m.map fun (name, v) => (name, .text v))

end Document

/-- The seconds with nine decimal places. -/
def Duration.outline (d : Duration) : Document :=
  let fraction := toString (d.nanoseconds % second)
  .text (toString d.seconds ++ "." ++ "".pushn '0' (9 - fraction.length) ++ fraction)

end Runbook
