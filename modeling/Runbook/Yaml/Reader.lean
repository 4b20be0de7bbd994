import Runbook.Yaml.Node
import Runbook.Yaml.Scheme

/-!
YAML texts read as documents. An alias stands for the node with its anchor; collections are nested
at most 128 deep, and the aliases that are followed are at most a hundred times as many as the
parts of the text.
-/

namespace Runbook.Yaml

abbrev Anchors := List (String × Nat)

/-- An anchor gets as its number how many names are known, so that the number of a name set anew
is shared with the next new name. -/
def Anchors.declare (known : Anchors) (name : Option String) : Anchors × Option Nat :=
  match name with
  | none => (known, none)
  | some name => ((name, known.length) :: known.filter (fun entry => entry.1 ≠ name), known.length)

mutual

/-- The node with numbers for its anchors and aliases, and the anchors met. An alias of a name not
met before is refused. -/
def link (known : Anchors) : Node String → Option (Node Nat × Anchors)
  | .alias name => (known.lookup name).map fun number => (.alias number, known)
  | .scalar p text plain =>
    let (known, number) := known.declare p.anchor
    some (.scalar ⟨number, p.tag⟩ text plain, known)
  | .sequence p items => do
    let (known, number) := known.declare p.anchor
    let (items, known) ← linkItems known items
    return (.sequence ⟨number, p.tag⟩ items, known)
  | .mapping p entries => do
    let (known, number) := known.declare p.anchor
    let (entries, known) ← linkEntries known entries
    return (.mapping ⟨number, p.tag⟩ entries, known)

def linkItems (known : Anchors) : List (Node String) → Option (List (Node Nat) × Anchors)
  | [] => some ([], known)
  | item :: rest => do
    let (item, known) ← link known item
    let (rest, known) ← linkItems known rest
    return (item :: rest, known)

def linkEntries (known : Anchors) :
    List (Node String × Node String) → Option (List (Node Nat × Node Nat) × Anchors)
  | [] => some ([], known)
  | (key, value) :: rest => do
    let (key, known) ← link known key
    let (value, known) ← link known value
    let (rest, known) ← linkEntries known rest
    return ((key, value) :: rest, known)

end

def declaration (number : Option Nat) (node : Node Nat) : List (Nat × Node Nat) :=
  match number with
  | some n => [(n, node)]
  | none => []

mutual

/-- The nodes with anchors, in the order of the text, with their numbers. -/
def declarations : Node Nat → List (Nat × Node Nat)
  | .alias _ => []
  | .scalar p text plain => declaration p.anchor (.scalar p text plain)
  | .sequence p items => declaration p.anchor (.sequence p items) ++ itemDeclarations items
  | .mapping p entries => declaration p.anchor (.mapping p entries) ++ entryDeclarations entries

def itemDeclarations : List (Node Nat) → List (Nat × Node Nat)
  | [] => []
  | item :: rest => declarations item ++ itemDeclarations rest

def entryDeclarations : List (Node Nat × Node Nat) → List (Nat × Node Nat)
  | [] => []
  | (key, value) :: rest => declarations key ++ declarations value ++ entryDeclarations rest

end

mutual

/-- The number of parts of a node: scalars, aliases, and the two ends of its collections. -/
def parts : Node Nat → Nat
  | .alias _ => 1
  | .scalar .. => 1
  | .sequence _ items => 2 + itemParts items
  | .mapping _ entries => 2 + entryParts entries

def itemParts : List (Node Nat) → Nat
  | [] => 0
  | item :: rest => parts item + itemParts rest

def entryParts : List (Node Nat × Node Nat) → Nat
  | [] => 0
  | (key, value) :: rest => parts key + parts value + entryParts rest

end

/-- The node an alias stands for; `left` is how many aliases may still be followed. -/
def follow (table : List (Nat × Node Nat)) (left : Nat) : Node Nat → Option (Node Nat × Nat)
  | .alias number => if left = 0 then none else (table.lookup number).map fun n => (n, left - 1)
  | n => some (n, left)

def isOwnTag (tag : Option String) : Bool := tag.any (·.startsWith "!")

/-- The name of a field: the text of a scalar. -/
def fieldName? (table : List (Nat × Node Nat)) (left : Nat) (key : Node Nat) :
    Option (String × Nat) := do
  match ← follow table left key with
  | (.scalar _ text _, left) => some (text, left)
  | _ => none

/-- The document of a node, collections in it nested at most `depth` deep, and how many aliases may
still be followed. -/
def document? (table : List (Nat × Node Nat)) : Nat → Nat → Node Nat → Option (Document × Nat)
  | depth, left, n => do
    match depth, ← follow table left n with
    | _, (.scalar p text plain, left) =>
      let d ← scalarDocument? p.tag text plain
      return (d, left)
    | depth + 1, (.sequence p items, left) =>
      if isOwnTag p.tag then none
      else
        let (items, left) ← items.foldlM (fun (found, left) item => do
          let (d, left) ← document? table depth left item
          return (d :: found, left)) ([], left)
        return (.list items.reverse, left)
    | depth + 1, (.mapping p entries, left) =>
      if isOwnTag p.tag then none
      else
        let (fields, left) ← entries.foldlM (fun (found, left) (key, value) => do
          let (name, left) ← fieldName? table left key
          let (d, left) ← document? table depth left value
          return ((name, d) :: found, left)) ([], left)
        return (.object fields.reverse, left)
    | _, _ => none

def nestingLimit : Nat := 128

/-- The document that a YAML text writes, its fields in the order of the text. -/
def read? (s : String) : Option Document := do
  match ← nodeOf? s.toList with
  | none => return .null
  | some written =>
    let (root, _) ← link [] written
    let (d, _) ← document? (declarations root).reverse nestingLimit (100 * parts root) root
    return d

end Runbook.Yaml
