import FilterStore.Dump.Replay
import FilterStore.Store.Action
import FilterStore.Value.Interchange

/-!
# Dumping a database

A dump records every object of a database but those the engine makes for itself, which it tells by
their names, and every row of every table that is recorded.  The statements stand in the order in
which the objects were created.
-/

namespace FilterStore

open Engine (Database SchemaObject Table Wildcard.accepting)
open Sql (Column ObjectKind)

/-- A pattern of the names of the engine's own objects. -/
def internalPattern : String := "sqlite_%"

/-- Whether an object is left out by its name. -/
def isInternal (name : String) : Bool := Wildcard.accepting internalPattern name

/-- The objects a dump records. -/
def recordedObjects (d : Database) : List SchemaObject :=
  d.objects.filter fun o => !isInternal o.name

/-- The statements of the objects of a kind. -/
def statementsOf (kind : ObjectKind) (os : List SchemaObject) : List String :=
  (os.filter fun o => o.kind = kind).map SchemaObject.sql

/-- The statements of objects. -/
def DumpSql.ofObjects (os : List SchemaObject) : DumpSql where
  tables := statementsOf .table os
  views := statementsOf .view os
  triggers := statementsOf .trigger os
  indexes := statementsOf .index os

namespace Document

/-- Asks the database itself for the objects. -/
def objectsSql : String :=
  "SELECT type, name, sql FROM sqlite_master WHERE sql IS NOT NULL AND name NOT LIKE '" ++
    internalPattern ++ "' ORDER BY rowid"

/-- Adds the columns and the rows of a table. -/
def withTable (d : Document) (name : String) (columns : List String) (rows : List (List Cell)) :
    Document :=
  { d with
    tables := Json.insertEntry name columns d.tables
    data := Json.insertEntry name (rows.map fun row => row.map Cell.toJson) d.data }

/-- Reads a table into a document. -/
def readTable (d : Document) (t : Table) : Action Document := do
  let columns := t.columns.map Column.name
  let answer ← Action.query (.text (Replay.selectSql t.name columns))
  pure (d.withTable t.name columns answer.rows)

/-- Dumps a database. -/
def ofDatabase : Action Document := do
  let objects := recordedObjects (← get).database
  let start := { empty with sql := .ofObjects objects }
  (objects.filterMap SchemaObject.table?).foldlM readTable start

end Document

end FilterStore
