import Magnetometer.Toml.Basic

/-!
# Building documents

How statements add up to a document.  A key is assigned once and a table is
opened by one header.  Tables that a header or a dotted key only passes through
come into being on the way: a header may still open those that a header made,
and dotted keys may still fill those that dotted keys made.
-/

namespace Magnetometer.Toml

/-- How a table came into being. -/
inductive Origin where
  /-- By a header of its own. -/
  | header
  /-- On the way of a header to a table inside it. -/
  | passed
  /-- By a dotted key. -/
  | dotted
deriving DecidableEq, Repr

/-- A document in the making. -/
inductive Node where
  /-- A value, closed to further entries. -/
  | value (v : Value)
  | table (origin : Origin) (entries : List (Key × Node))
  /-- An array of tables; the last row is the open one. -/
  | rows (rows : List (List (Key × Node)))
deriving Repr

/-- The entries of a table in the making. -/
abbrev Entries := List (Key × Node)

namespace Entries

/-- The node of a key. -/
def find? (entries : Entries) (key : Key) : Option Node := entries.lookup key

/-- Put a node in place of the one a key has. -/
def replace (entries : Entries) (key : Key) (node : Node) : Entries :=
  entries.map fun entry => if entry.1 = key then (key, node) else entry

/-- Assign a value to a key that has none. -/
def add? (entries : Entries) (key : Key) (node : Node) : Option Entries :=
  if (entries.find? key).isSome then none else some (entries ++ [(key, node)])

/-- Change the last row of an array of tables. -/
def onLastRow (change : Entries → Option Entries) : List Entries → Option (List Entries)
  | [] => none
  | [row] => (change row).map ([·])
  | row :: rows => (onLastRow change rows).map (row :: ·)

/-- Change the table at the end of a header's path; tables on the way that do
not exist come into being. -/
def update? (change : Entries → Option Entries) : List Key → Entries → Option Entries
  | [], entries => change entries
  | key :: path, entries =>
      match entries.find? key with
      | none => (update? change path []).map fun inner => entries ++ [(key, .table .passed inner)]
      | some (.value _) => none
      | some (.table origin inner) =>
          (update? change path inner).map fun inner => entries.replace key (.table origin inner)
      | some (.rows rows) =>
          (onLastRow (update? change path) rows).map fun rows => entries.replace key (.rows rows)

/-- Assign a value to a dotted key.  The flag tells whether the table at hand
takes a plain key. -/
def assign? (value : Value) : List Key → Bool → Entries → Option Entries
  | [], _, _ => none
  | [key], takesKey, entries => if takesKey then entries.add? key (.value value) else none
  | key :: path, _, entries =>
      match entries.find? key with
      | none => (assign? value path true []).map fun inner =>
          entries ++ [(key, .table .dotted inner)]
      | some (.value _) => none
      | some (.table .header _) => none
      | some (.table origin inner) =>
          (assign? value path (origin == .dotted) inner).map fun inner =>
            entries.replace key (.table origin inner)
      | some (.rows rows) =>
          (onLastRow (assign? value path false) rows).map fun rows =>
            entries.replace key (.rows rows)

/-- Open a table by its header. -/
def openTable? (key : Key) (entries : Entries) : Option Entries :=
  match entries.find? key with
  | none => some (entries ++ [(key, .table .header [])])
  | some (.table .passed inner) => some (entries.replace key (.table .header inner))
  | some _ => none

/-- Open a new row of an array of tables. -/
def openRow? (key : Key) (entries : Entries) : Option Entries :=
  match entries.find? key with
  | none => some (entries ++ [(key, .rows [[]])])
  | some (.rows rows) => some (entries.replace key (.rows (rows ++ [[]])))
  | some _ => none

end Entries

mutual

/-- The value of a finished node. -/
def Node.toValue : Node → Value
  | .value v => v
  | .table _ entries => .table (tableOfEntries entries)
  | .rows rows => .array (tablesOfRows rows)

/-- The table of finished entries. -/
def tableOfEntries : List (Key × Node) → Table
  | [] => []
  | (key, node) :: rest => (key, node.toValue) :: tableOfEntries rest

/-- The tables of finished rows. -/
def tablesOfRows : List (List (Key × Node)) → List Value
  | [] => []
  | row :: rest => .table (tableOfEntries row) :: tablesOfRows rest

end

/-- The table of key-value pairs in braces. -/
def inlineTable? (pairs : List (List Key × Value)) : Option Table :=
  (pairs.foldlM (fun entries (path, value) => Entries.assign? value path true entries) []).map
    tableOfEntries

/-- A document in the making, and the path of its current table. -/
structure Document where
  entries : Entries
  current : List Key
deriving Repr

namespace Document

/-- The document before its first statement. -/
def empty : Document := ⟨[], []⟩

/-- The table of the document. -/
def table (document : Document) : Table := tableOfEntries document.entries

/-- Assign a value to a key of the current table. -/
def assign? (document : Document) (path : List Key) (value : Value) : Option Document :=
  (document.entries.update? (Entries.assign? value path true) document.current).map fun entries =>
    { document with entries := entries }

/-- Change the table around the last key of a path, which becomes the current
table. -/
def openAt? (change : Key → Entries → Option Entries) (document : Document) (path : List Key) :
    Option Document := do
  let key ← path.getLast?
  let entries ← document.entries.update? (change key) path.dropLast
  return ⟨entries, path⟩

/-- Open a table by its header. -/
def openTable? (document : Document) (path : List Key) : Option Document :=
  openAt? Entries.openTable? document path

/-- Open a new row of an array of tables. -/
def openRow? (document : Document) (path : List Key) : Option Document :=
  openAt? Entries.openRow? document path

end Document

end Magnetometer.Toml
