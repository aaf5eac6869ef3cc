import FilterStore.Dump.Snapshot

/-!
# The schema of a database

The tables, indexes and triggers of a database can be registered, as far as they can be addressed
at all: a table whose name or one of whose columns is no identifier is passed over, and so are
indexes and triggers with such names, indexes of anything but columns, and triggers of tables that
are passed over.

Of a table's constraints the primary key is kept, of a column's also whether it is required and its
default.
-/

namespace FilterStore

open Engine (Database Index Table Trigger)
open Sql (Column Expr)
open Text (sameName)

namespace Registry

/-- The constraints of a column; `primary` says whether it alone is the primary key. -/
def columnConstraints (primary : Bool) (c : Column) : List String :=
  (if primary then ["PRIMARY KEY"] else []) ++ (if c.notNull then ["NOT NULL"] else []) ++
    (c.default.map fun e => "DEFAULT " ++ e.text).toList

/-- A column of a table as it is registered. -/
def columnDefinition (key : List String) (c : Column) : ColumnDefinition :=
  let primary := key.length == 1 && key.any (sameName c.name)
  .ofParts c.name c.declaredType (" ".intercalate (columnConstraints primary c))

/-- The constraints of a table as they are registered. -/
def keyConstraints (key : List String) : List TableConstraint :=
  if 1 < key.length then [.sql ("PRIMARY KEY (" ++ ", ".intercalate key ++ ")")] else []

/-- Whether a table can be addressed. -/
def isAddressable (t : Table) : Bool :=
  isIdentifier t.name && t.columns.all fun c => isIdentifier c.name

/-- The columns of a table by the spelling of its definition. -/
def spelled (t : Table) (name : String) : String :=
  ((t.columns.find? fun c => sameName c.name name).map Column.name).getD name

/-- Registers an index of a table. -/
def registerIndex (t : Table) (r : Registry) (i : Index) : Except Error Registry :=
  match (i.columns?.getD []).map fun c => spelled t c.name with
  | [] => .ok r
  | columns =>
    if isIdentifier i.name then r.addIndex i.name t.name columns i.unique else .ok r

/-- Registers a table with its indexes. -/
def registerTable (d : Database) (r : Registry) (t : Table) : Except Error Registry := do
  if isAddressable t then
    let key := t.primaryColumns.map (spelled t)
    let r ← r.addTable t.name (t.columns.map (columnDefinition key)) (keyConstraints key)
    (d.indexesOf t.name).foldlM (registerIndex t) r
  else .ok r

/-- Registers a trigger. -/
def registerTrigger (r : Registry) (g : Trigger) : Except Error Registry :=
  if isIdentifier g.name && r.tableExists g.table then r.addTrigger g.name g.table g.text
  else .ok r

/-- Asks the database itself for the names of the tables. -/
def tableNamesSql : String :=
  "SELECT name FROM sqlite_master WHERE type = ?1 AND name NOT LIKE '" ++ internalPattern ++
    "' ORDER BY rowid"

/-- Registers the schema of a database. -/
def ofDatabase (options : RegistryOptions) (d : Database) : Except Error Registry := do
  let tables := d.tables.filter fun t => !isInternal t.name
  let r ← tables.foldlM (registerTable d) (empty options)
  (d.objects.filterMap Engine.SchemaObject.trigger?).foldlM registerTrigger r

end Registry

end FilterStore
