import Runbook.Document

/-!
Queries of documents: paths that lead from the root to the values of a document, some of them
chosen by a test.
-/

namespace Runbook.Query

inductive Comparison where
  | equal | notEqual | less | lessEqual | greater | greaterEqual
  deriving DecidableEq, Repr

/-- The functions of queries, each with the kind of its result and its arguments. -/
inductive FunctionName where
  | length | count | fullMatch | search | value
  deriving DecidableEq, Repr

mutual

/-- A path from the root of the document, or from the value that is tested. -/
inductive Path where
  | mk (fromRoot : Bool) (segments : List Segment)

/-- Selectors that apply to the values found so far, or to all values inside them as well. -/
inductive Segment where
  | mk (deep : Bool) (selectors : List Selector)

inductive Selector where
  | name (name : String)
  | wildcard
  | index (index : Int)
  | slice (first last step : Option Int)
  | filter (test : Test)

inductive Test where
  | or (left right : Test)
  | and (left right : Test)
  | not (test : Test)
  | found (path : Path)
  | holds (call : Call)
  | compare (comparison : Comparison) (left right : Operand)

/-- One side of a comparison, or an argument of a function. -/
inductive Operand where
  | literal (value : Document)
  | path (path : Path)
  | call (call : Call)

inductive Call where
  | mk (name : FunctionName) (arguments : List Operand)

end

def Selector.isSingular : Selector → Bool
  | .name _ => true
  | .index _ => true
  | _ => false

def Segment.isSingular : Segment → Bool
  | .mk deep [selector] => !deep && selector.isSingular
  | _ => false

def Path.isSingular : Path → Bool
  | .mk _ segments => segments.all Segment.isSingular

/-- A function whose result is a truth value; the result of the others is a value. -/
def FunctionName.isLogical : FunctionName → Bool
  | .fullMatch => true
  | .search => true
  | _ => false

def Call.isLogical : Call → Bool
  | .mk name _ => name.isLogical

def Operand.isValue : Operand → Bool
  | .literal _ => true
  | .path p => p.isSingular
  | .call c => !c.isLogical

def Operand.isPath : Operand → Bool
  | .path _ => true
  | _ => false

def FunctionName.accepts (name : FunctionName) (arguments : List Operand) : Bool :=
  match name, arguments with
  | .length, [a] => a.isValue
  | .count, [a] => a.isPath
  | .value, [a] => a.isPath
  | .fullMatch, [a, b] => a.isValue && b.isValue
  | .search, [a, b] => a.isValue && b.isValue
  | _, _ => false

end Runbook.Query
