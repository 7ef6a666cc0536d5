import Backtrack.Text.Offset

/-!
# Documents of tables

A document is a table of named items, some of which are tables again. A table remembers how it was
opened, because that decides who may add to it later: a table in braces is complete, a table with a
header takes more only under that header or under headers that lead through it, and a table that
only a path has named takes more under dotted keys and can still be opened.
-/

namespace Backtrack.Toml

/-! ## §1. Items and tables -/

/-- How a table was opened. -/
inductive Origin where
  /-- By a header that leads through it. -/
  | implied
  /-- By a dotted key that leads through it. -/
  | dotted
  /-- By a header of its own. -/
  | header
  /-- By braces. -/
  | braces
  deriving DecidableEq, Repr

/-- What a name can stand for. -/
inductive Item where
  | string (text : Text)
  | integer (value : Int)
  | double (value : Float)
  | boolean (value : Bool)
  /-- A date, a time of day, or both, as it is written. -/
  | moment (text : Text)
  /-- An array in brackets. -/
  | array (items : List Item)
  | table (origin : Origin) (entries : List (Text × Item))
  /-- Tables of one name, each opened by a header of its own. -/
  | tables (elements : List (List (Text × Item)))

/-- A table: how it was opened, and its entries in order. -/
structure Table where
  origin : Origin
  entries : List (Text × Item) := []

namespace Table

/-- The table as an item. -/
def toItem (table : Table) : Item := .table table.origin table.entries

/-- The item of a name. -/
def find? (table : Table) (name : Text) : Option Item := table.entries.lookup name

/-- The table with an item in the place of the name's, or at the end if the name is new. -/
def set (table : Table) (name : Text) (item : Item) : Table :=
  if (table.find? name).isSome then
    { table with
      entries := table.entries.map fun entry => if entry.1 = name then (name, item) else entry }
  else { table with entries := table.entries ++ [(name, item)] }

/-- The table with a new entry. A name stands for one item only. -/
def insert? (table : Table) (name : Text) (item : Item) : Option Table :=
  if (table.find? name).isSome then none else some (table.set name item)

/-! ## §2. Paths -/

/-- May a path go on through a table? `way` is `implied` for the path of a header and `dotted` for
that of a key. -/
def passes (way : Origin) : Origin → Bool
  | .implied | .dotted => true
  | .header => way = .implied
  | .braces => false

/-- Changes the table that a path leads to. Tables that are missing are opened on the way. Of
several tables of a name, a path goes on in the latest. -/
def alter (table : Table) (way : Origin) (path : List Text) (change : Table → Option Table) :
    Option Table :=
  match path with
  | [] => change table
  | name :: path =>
    match table.find? name with
    | none => do
      let inner ← (Table.mk way []).alter way path change
      return table.set name inner.toItem
    | some (.table origin entries) =>
      if passes way origin then do
        let inner ← (Table.mk origin entries).alter way path change
        return table.set name inner.toItem
      else none
    | some (.tables elements) =>
      match elements.getLast? with
      | some entries => do
        let inner ← (Table.mk .header entries).alter way path change
        return table.set name (.tables (elements.dropLast ++ [inner.entries]))
      | none => none
    | some _ => none

/-- Inserts an item under a dotted key. The table that takes it must be one that only paths have
named, unless the key has no dots. -/
def assign? (table : Table) (path : List Text) (name : Text) (item : Item) : Option Table :=
  table.alter .dotted path fun inner =>
    if path.isEmpty || passes .dotted inner.origin then inner.insert? name item else none

/-- Opens a table by its header. Only a table that headers have led through may exist already. -/
def openTable? (table : Table) (path : List Text) (name : Text) : Option Table :=
  table.alter .implied path fun inner =>
    match inner.find? name with
    | none => some (inner.set name (.table .header []))
    | some (.table .implied entries) => some (inner.set name (.table .header entries))
    | some _ => none

/-- Opens one more table of a name by its header. -/
def openElement? (table : Table) (path : List Text) (name : Text) : Option Table :=
  table.alter .implied path fun inner =>
    match inner.find? name with
    | none => some (inner.set name (.tables [[]]))
    | some (.tables elements) => some (inner.set name (.tables (elements ++ [[]])))
    | some _ => none

end Table

/-! ## §3. Statements -/

/-- A statement of a document. A path and a name come from a dotted key. -/
inductive Statement where
  /-- The header of a table. -/
  | table (path : List Text) (name : Text)
  /-- The header of one of several tables of a name. -/
  | element (path : List Text) (name : Text)
  /-- A key and its value. -/
  | assign (path : List Text) (name : Text) (item : Item)

/-- A document between two statements: its root, and the path of the table opened last. -/
structure Draft where
  root : Table := ⟨.header, []⟩
  current : List Text := []

/-- Carries out a statement. -/
def Draft.apply? (draft : Draft) : Statement → Option Draft
  | .table path name => do
    return { root := ← draft.root.openTable? path name, current := path ++ [name] }
  | .element path name => do
    return { root := ← draft.root.openElement? path name, current := path ++ [name] }
  | .assign path name item => do
    let root ← draft.root.alter .implied draft.current (·.assign? path name item)
    return { draft with root }

/-- The table that statements make. -/
def Table.ofStatements? (statements : List Statement) : Option Table :=
  (statements.foldlM Draft.apply? {}).map Draft.root

end Backtrack.Toml
