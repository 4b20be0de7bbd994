import Runbook.Document

/-!
The tables of a TOML text while it is read. How a table came to be decides what may be added to it
later: a header defines a table once, and dotted keys add only to tables that such keys made.
-/

namespace Runbook.Toml

/-- How a table came to be: by a header of its own, by the header of a table in it, or by a dotted
key. -/
inductive Origin where
  | header | implied | dotted
  deriving DecidableEq, Repr

/-- What stands under a key: a value, a table, or the tables of a list. -/
inductive Node where
  | value (d : Document)
  | table (origin : Origin) (entries : List (String × Node))
  | rows (tables : List (List (String × Node)))

instance : Inhabited Node := ⟨.value .null⟩

abbrev Entries := List (String × Node)

mutual

def Node.document : Node → Document
  | .value d => d
  | .table _ entries => .object (fieldsOf entries)
  | .rows tables => .list (rowsOf tables)

def fieldsOf : List (String × Node) → List (String × Document)
  | [] => []
  | (key, node) :: rest => (key, node.document) :: fieldsOf rest

def rowsOf : List (List (String × Node)) → List Document
  | [] => []
  | entries :: rest => .object (fieldsOf entries) :: rowsOf rest

end

namespace Entries

def find? (entries : Entries) (key : String) : Option Node := List.lookup key entries

def put (entries : Entries) (key : String) (node : Node) : Entries :=
  match entries with
  | [] => [(key, node)]
  | (k, old) :: rest => if k = key then (key, node) :: rest else (k, old) :: put rest key node

def addValue (d : Document) : List String → Entries → Option Entries
  | [], _ => none
  | [key], entries =>
    match find? entries key with
    | none => some (entries ++ [(key, .value d)])
    | some _ => none
  | key :: rest, entries =>
    match find? entries key with
    | none => (addValue d rest []).map fun inner => put entries key (.table .dotted inner)
    | some (.table .dotted inner) =>
      (addValue d rest inner).map fun inner => put entries key (.table .dotted inner)
    | some _ => none

def changeLast (f : Entries → Option Entries) (tables : List Entries) : Option (List Entries) :=
  match tables.getLast? with
  | some last => (f last).map fun changed => tables.dropLast ++ [changed]
  | none => none

/-- Changes the table that the parts of a key lead to; those that are not there are implied. -/
def changeAt (f : Entries → Option Entries) : List String → Entries → Option Entries
  | [], entries => f entries
  | key :: rest, entries =>
    match find? entries key with
    | none => (changeAt f rest []).map fun inner => put entries key (.table .implied inner)
    | some (.table origin inner) =>
      (changeAt f rest inner).map fun inner => put entries key (.table origin inner)
    | some (.rows tables) =>
      (changeLast (changeAt f rest) tables).map fun tables => put entries key (.rows tables)
    | some (.value _) => none

def define (key : String) (entries : Entries) : Option Entries :=
  match find? entries key with
  | none => some (put entries key (.table .header []))
  | some (.table .implied inner) => some (put entries key (.table .header inner))
  | some _ => none

def addRow (key : String) (entries : Entries) : Option Entries :=
  match find? entries key with
  | none => some (put entries key (.rows [[]]))
  | some (.rows tables) => some (put entries key (.rows (tables ++ [[]])))
  | some _ => none

/-- What the header of a table, or of one of a list of tables, brings about. -/
def open? (isRow : Bool) (path : List String) (entries : Entries) : Option Entries :=
  match path.getLast? with
  | some key => changeAt (if isRow then addRow key else define key) path.dropLast entries
  | none => none

end Entries

end Runbook.Toml
