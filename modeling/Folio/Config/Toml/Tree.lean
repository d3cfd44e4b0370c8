import Folio.Config.Datum

namespace Folio
namespace Toml

/-!
# TOML: tables under construction

A TOML text builds its tables bit by bit: under headings, by keys with dots, or in one piece between
braces.  How a table came about decides what may still be added to it.
-/

/-- How a table came about. -/
inductive TableKind where
  /-- By a heading for a table inside it. -/
  | implied
  /-- By a heading of its own. -/
  | headed
  /-- By a key with dots. -/
  | dotted
  deriving DecidableEq

/-- What stands at a key. -/
inductive Item where
  /-- A finished value, to which nothing can be added. -/
  | value (value : Datum)
  | table (kind : TableKind) (entries : List (String × Item))
  /-- Tables that share a heading, the last one first. -/
  | tables (last : List (String × Item)) (others : List (List (String × Item)))
  deriving Inhabited

abbrev Entries := List (String × Item)

/-- Change or add the entry at a key. -/
def putItem (key : String) (item : Item) : Entries → Entries
  | [] => [(key, item)]
  | e :: es => if e.1 = key then (key, item) :: es else e :: putItem key item es

/-- Change the table at the end of a path.  Tables on the way that are not there yet are made; with
`dotted`, the path is that of a key and may not lead through a table with a heading. -/
def updateTable (dotted : Bool) (f : TableKind → Entries → Option Entries) :
    List String → TableKind → Entries → Option Entries
  | [], kind, entries => f kind entries
  | key :: path, _, entries =>
    match entries.lookup key with
    | none =>
      let kind := if dotted then .dotted else .implied
      (updateTable dotted f path kind []).map fun es => entries ++ [(key, .table kind es)]
    | some (.table kind es) =>
      if dotted ∧ kind = .headed then none
      else (updateTable dotted f path kind es).map fun es => putItem key (.table kind es) entries
    | some (.tables last others) =>
      (updateTable dotted f path .headed last).map fun es =>
        putItem key (.tables es others) entries
    | some (.value _) => none

/-- Add an entry that must not be there yet. -/
def addItem (key : String) (item : Item) (entries : Entries) : Option Entries :=
  if (entries.lookup key).isSome then none else some (entries ++ [(key, item)])

/-- Split a key into its last part and the parts in front of it. -/
def splitLast : List String → Option (List String × String)
  | [] => none
  | [key] => some ([], key)
  | key :: path => (splitLast path).map fun r => (key :: r.1, r.2)

/-- Add a value at a key; a key with dots only goes through tables made by such keys. -/
def addValue (path : List String) (v : Datum) (entries : Entries) : Option Entries := do
  let (path, key) ← splitLast path
  updateTable true
    (fun kind es => if !path.isEmpty && kind != .dotted then none else addItem key (.value v) es)
    path .headed entries

def beginTable (path : List String) (entries : Entries) : Option Entries := do
  let (path, key) ← splitLast path
  updateTable false
    (fun _ es =>
      match es.lookup key with
      | none => some (es ++ [(key, .table .headed [])])
      | some (.table .implied sub) => some (putItem key (.table .headed sub) es)
      | some _ => none)
    path .headed entries

/-- Begin one more of the tables that share a heading. -/
def beginNext (path : List String) (entries : Entries) : Option Entries := do
  let (path, key) ← splitLast path
  updateTable false
    (fun _ es =>
      match es.lookup key with
      | none => some (es ++ [(key, .tables [] [])])
      | some (.tables last others) => some (putItem key (.tables [] (last :: others)) es)
      | some _ => none)
    path .headed entries

/-- Add a value under the current heading. -/
def addUnder (heading path : List String) (v : Datum) (entries : Entries) : Option Entries :=
  updateTable false (fun _ es => addValue path v es) heading .headed entries

/-- Put an entry where it belongs in the order of keys. -/
def insertSorted (e : String × Datum) : List (String × Datum) → List (String × Datum)
  | [] => [e]
  | f :: es => if e.1 < f.1 then e :: f :: es else f :: insertSorted e es

mutual

def Item.datum : Item → Datum
  | .value v => v
  | .table _ entries => .table (sortedEntries entries)
  | .tables last others => .list (tableData others [.table (sortedEntries last)])

/-- The finished entries of a table, in the order of their keys. -/
def sortedEntries : List (String × Item) → List (String × Datum)
  | [] => []
  | e :: es => insertSorted (sortedEntry e) (sortedEntries es)

def sortedEntry : String × Item → String × Datum
  | (key, item) => (key, item.datum)

/-- Tables in the order in which they were written, put in front of `later`. -/
def tableData : List (List (String × Item)) → List Datum → List Datum
  | [], later => later
  | es :: others, later => tableData others (.table (sortedEntries es) :: later)

end

end Toml
end Folio
