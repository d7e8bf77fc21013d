import Companion.Json

/-! # Settings documents

The tree of a TOML document, built from its statements: headers of tables and of lists of tables,
and assignments to dotted keys. A table is given by one header or by dotted keys, not by both, and
no key is given twice. -/

namespace Companion.Toml

/-- What stands at a key. -/
inductive Item
  /-- A value, which cannot be extended. -/
  | value (value : Json)
  /-- A table; it is implied if only tables or keys below it were named, and dotted if keys below
  it were. -/
  | table (implied dotted : Bool) (entries : List (String × Item))
  /-- A list of tables, given by one header each. -/
  | tables (items : List (List (String × Item)))
  deriving Inhabited

/-- The entries of a table. -/
abbrev Entries := List (String × Item)

/-- A table under construction: the contents of `Item.table`. -/
structure Table where
  /-- Whether only tables or keys below it were named. -/
  implied : Bool
  /-- Whether keys below it were named. -/
  dotted : Bool
  /-- The entries in the order of their first mention. -/
  entries : Entries

/-- One statement of a document. -/
inductive Statement
  /-- The header of a table. -/
  | header (path : List String)
  /-- The header of one more table of a list. -/
  | listHeader (path : List String)
  /-- An assignment to a key below a path of keys. -/
  | assign (path : List String) (key : String) (value : Json)

namespace Table

/-- The table of a document before its first statement: it has a header, and no entries. -/
def root : Table := ⟨false, false, []⟩

/-- What stands at a key of a table. -/
def get? (table : Table) (key : String) : Option Item :=
  (table.entries.find? (·.1 == key)).map Prod.snd

/-- The entries with an item put at a key. -/
def putEntry (key : String) (item : Item) : Entries → Entries
  | [] => [(key, item)]
  | entry :: rest =>
    if entry.1 = key then (key, item) :: rest else entry :: putEntry key item rest

/-- The table with an item put at a key with `putEntry`. -/
def put (table : Table) (key : String) (item : Item) : Table :=
  { table with entries := putEntry key item table.entries }

/-- A table as an item. -/
def toItem (table : Table) : Item := .table table.implied table.dotted table.entries

/-- Changes the table at a path below a table; tables on the way are created as needed, and of a
list of tables the last one is meant. Keys of `dotted` paths do not enter a table that has a header.
-/
def changeAt (dotted : Bool) : (path : List String) → (Table → Option Table) → Table → Option Table
  | [], change, table => change table
  | key :: path, change, table =>
    match table.get? key with
    | none => do
      let child ← changeAt dotted path change ⟨true, dotted, []⟩
      some (table.put key child.toItem)
    | some (.value _) => none
    | some (.table implied isDotted entries) =>
      if dotted && !implied then none
      else do
        let child ← changeAt dotted path change ⟨implied, isDotted, entries⟩
        some (table.put key child.toItem)
    | some (.tables items) =>
      match items.reverse with
      | [] => none
      | last :: before => do
        let child ← changeAt dotted path change ⟨false, false, last⟩
        some (table.put key (.tables (before.reverse ++ [child.entries])))

/-- Gives a table of a table its header; a table that has one already is refused. -/
def openTable (key : String) (table : Table) : Option Table :=
  match table.get? key with
  | none => some (table.put key (.table false false []))
  | some (.table true false entries) => some (table.put key (.table false false entries))
  | some _ => none

/-- Adds a table to a list of tables of a table. -/
def openListed (key : String) (table : Table) : Option Table :=
  match table.get? key with
  | none => some (table.put key (.tables [[]]))
  | some (.tables items) => some (table.put key (.tables (items ++ [[]])))
  | some _ => none

/-- Puts a value at a key that is still free, `isDotted` telling whether the key stands below
dotted ones. -/
def assignKey (isDotted : Bool) (key : String) (value : Json) (table : Table) : Option Table :=
  if table.dotted != isDotted then none
  else
    match table.get? key with
    | none => some (table.put key (.value value))
    | some _ => none

/-- Puts a value at a key below a path of dotted keys: `assignKey` in the table that `changeAt`
finds. -/
def assign (path : List String) (key : String) (value : Json) : Table → Option Table :=
  changeAt true path (assignKey (!path.isEmpty) key value)

end Table

mutual

/-- An item as a tree of values: a table gives an object, and a list of tables an array. -/
def Item.toTree : Item → Json
  | .value value => value
  | .table _ _ entries => .object (entriesToTree entries)
  | .tables items => .array (tablesToTree items)

/-- The entries of a table as trees of values: `Item.toTree` of each. -/
def entriesToTree : List (String × Item) → List (String × Json)
  | [] => []
  | (key, item) :: rest => (key, item.toTree) :: entriesToTree rest

/-- A list of tables as trees of values: an object of `entriesToTree` for each. -/
def tablesToTree : List (List (String × Item)) → List Json
  | [] => []
  | entries :: rest => .object (entriesToTree entries) :: tablesToTree rest

end

/-- The last key of a path, with the keys before it. -/
def splitLast? (path : List String) : Option (List String × String) :=
  path.getLast?.map fun key => (path.dropLast, key)

/-- Builds the root table from statements with `openTable`, `openListed` and `assign`; `current` is
the path of the table whose header came last. -/
def build : (current : List String) → List Statement → Table → Option Table
  | _, [], table => some table
  | _, .header path :: rest, table => do
    let (before, key) ← splitLast? path
    let table ← Table.changeAt false before (Table.openTable key) table
    build path rest table
  | _, .listHeader path :: rest, table => do
    let (before, key) ← splitLast? path
    let table ← Table.changeAt false before (Table.openListed key) table
    build path rest table
  | current, .assign path key value :: rest, table => do
    let table ← Table.changeAt false current (Table.assign path key value) table
    build current rest table

/-- The tree of a list of statements, which `build` makes of them; none if they contradict each
other. -/
def treeOf? (statements : List Statement) : Option Json :=
  (build [] statements .root).map fun table => .object (entriesToTree table.entries)

/-- Makes assignments one after the other with `Table.assign`. -/
def assignAll : List (List String × String × Json) → Table → Option Table
  | [], table => some table
  | (path, key, value) :: rest, table =>
    match Table.assign path key value table with
    | none => none
    | some table => assignAll rest table

/-- The tree of the assignments between braces, which `assignAll` makes; none if they contradict
each other. -/
def inlineTree? (assignments : List (List String × String × Json)) : Option Json :=
  (assignAll assignments .root).map fun table => .object (entriesToTree table.entries)

end Companion.Toml
