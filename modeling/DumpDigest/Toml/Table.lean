import DumpDigest.Toml.Basic

/-! # Filling tables

The lines of a file fill one table. A header opens the table of the entries that follow it; an
entry's key may itself lead through tables. A table is closed to headers when it has had its own or
stands between braces, and to dotted keys of other tables unless dotted keys have made it.
-/

namespace DumpDigest.Toml

/-- What a line says. -/
inductive Statement where
  | entry (key : Key) (value : Value)
  | table (key : Key)
  | element (key : Key)

namespace Table

/-- A value under a name that has none. -/
def add (table : Table) (name : String) (value : Value) : Option Table :=
  match table.find? name with
  | none => some (SortedMap.insert table name value)
  | some _ => none

/-- The entry of a dotted key. The tables on its way are made where they are missing; the last of
them must have been made by dotted keys, those in front of it must not have headers of their own. -/
def enter (name : String) (value : Value) : (path : List String) → Table → Option Table
  | [], table => table.add name value
  | step :: path, table => do
    let filled ←
      match table.find? step with
      | none => Value.table .dotted <$> enter name value path .empty
      | some (.table .dotted fields) => Value.table .dotted <$> enter name value path fields
      | some (.table .implied fields) =>
        if path.isEmpty then none else Value.table .implied <$> enter name value path fields
      | some (.tables earlier last) =>
        if path.isEmpty then none else Value.tables earlier <$> enter name value path last
      | _ => none
    return SortedMap.insert table step filled

/-- The table with a change applied at the end of a path of headers. Tables that are missing on the
way are implied, of tables that share a header the last one counts. -/
def update (change : Table → Option Table) : (path : List String) → Table → Option Table
  | [], table => change table
  | step :: path, table => do
    let changed ←
      match table.find? step with
      | none => Value.table .implied <$> update change path .empty
      | some (.table .inline _) => none
      | some (.table origin fields) => Value.table origin <$> update change path fields
      | some (.tables earlier last) => Value.tables earlier <$> update change path last
      | _ => none
    return SortedMap.insert table step changed

/-- The table with a header's table opened: a new one, or one that other headers implied. -/
def openTable (name : String) (table : Table) : Option Table :=
  match table.find? name with
  | none => some (SortedMap.insert table name (.table .header .nil))
  | some (.table .implied fields) => some (SortedMap.insert table name (.table .header fields))
  | some _ => none

/-- The table with one more of the tables that share a header. -/
def openElement (name : String) (table : Table) : Option Table :=
  match table.find? name with
  | none => some (SortedMap.insert table name (.tables [] .nil))
  | some (.tables earlier last) =>
    some (SortedMap.insert table name (.tables (earlier ++ [last]) .nil))
  | some _ => none

end Table

/-- A file that has been read up to a line: its table, and the path of the header that is open. -/
structure Draft where
  table : Table
  opened : List String

namespace Draft

/-- The draft of an empty file. -/
def empty : Draft := ⟨.empty, []⟩

/-- The draft after one more line. -/
def add (draft : Draft) : Statement → Option Draft
  | .entry key value => do
    let table ← draft.table.update (Table.enter key.name value key.path) draft.opened
    return { draft with table }
  | .table key => do
    return ⟨← draft.table.update (Table.openTable key.name) key.path, key.path ++ [key.name]⟩
  | .element key => do
    return ⟨← draft.table.update (Table.openElement key.name) key.path, key.path ++ [key.name]⟩

end Draft

/-- The table of a file's lines. -/
def tableOf (statements : List Statement) : Option Table :=
  (·.table) <$> statements.foldlM Draft.add .empty

/-- The table between braces of some entries. -/
def inlineTable (entries : List (Key × Value)) : Option Value := do
  let fields ← entries.foldlM
    (fun (table : Table) (entry : Key × Value) =>
      table.enter entry.1.name entry.2 entry.1.path) .empty
  return .table .inline fields

end DumpDigest.Toml
