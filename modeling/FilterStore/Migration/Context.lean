import FilterStore.Store.Action

/-!
# What schema functions do

A schema function can create what is registered, and change tables one by one.
-/

namespace FilterStore.Registry

/-- Creates everything that is registered: tables, then indexes, then triggers. -/
def createTables (r : Registry) : Action Unit := r.createStatements.forM Action.batch

/-- Creates a registered table with its indexes and triggers. -/
def createTable (r : Registry) (table : String) : Action Unit := do
  let statements ← Action.ofRequest (r.createStatementsFor table)
  statements.forM Action.batch

/-- Adds a registered column to a table that exists already.  The column must not have a default
that is computed, so a timestamp cannot be added this way. -/
def addColumn (r : Registry) (table column : String) : Action Unit := do
  match r.table? table with
  | none => throw (.schema (.unknownTable table))
  | some t =>
    match t.column? column with
    | none => throw (.schema (.unknownColumn t.name column))
    | some c => Action.batch ("ALTER TABLE " ++ t.name ++ " ADD COLUMN " ++ c.sql)

/-- Creates a registered index. -/
def createIndex (r : Registry) (name : String) : Action Unit :=
  match r.indexes.find? fun i => Text.sameName i.name (Text.trim name) with
  | some i => Action.batch i.createSql
  | none => throw (.invalidState (.unknownIndex name))

/-- Drops a table, if it exists. -/
def dropTable (table : String) : Action Unit := do
  let table := Text.trim table
  Action.ofRequest (checkIdentifier .table table)
  Action.batch ("DROP TABLE IF EXISTS " ++ table)

end FilterStore.Registry
