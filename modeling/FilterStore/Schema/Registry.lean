import FilterStore.Schema.Definition
import FilterStore.Value.Record
import FilterStore.Value.Storage

/-!
# The registry

The registry knows which tables, columns, indexes and triggers there are.  A request is checked
against it before anything reaches the database, and the statements that create the schema are
written from it.  Registering a thing again replaces it in place, so an application can register its
schema on every start.  Once migrations have run the registry is locked and refuses every change.

A registration that fails leaves no trace, because it answers with an error in place of a new
registry.

## Timestamps

A column with the configured name for the time of creation or of the last change holds dates.  Where
it is given without a type it takes the configured one, and without constraints it defaults to the
current time.  The column of the last change is kept up to date by a trigger, which is registered
with it and named after table and column.
-/

namespace FilterStore

open Text (trim sameName)

/-- How timestamp columns are recognized and stored. -/
structure RegistryOptions where
  createColumn : Option String
  changeColumn : Option String
  timestampType : String
  deriving DecidableEq, Repr

/-- `created` and `changed`, stored as seconds. -/
def RegistryOptions.standard : RegistryOptions := ⟨some "created", some "changed", "INTEGER"⟩

/-- The registered schema. -/
structure Registry where
  options : RegistryOptions
  tables : List TableDefinition
  indexes : List IndexDefinition
  triggers : List TriggerDefinition
  locked : Bool

namespace Registry

/-- The registry without tables. -/
def empty (options : RegistryOptions) : Registry := ⟨options, [], [], [], false⟩

/-! ## Looking things up -/

/-- The table of a name, blanks around it aside. -/
def table? (r : Registry) (name : String) : Option TableDefinition :=
  Named.find? TableDefinition.name (trim name) r.tables

/-- The table of a name exactly as it is given. -/
def requireTable (r : Registry) (name : String) : Except Error TableDefinition :=
  match Named.find? TableDefinition.name name r.tables with
  | some t => .ok t
  | none => .error (.unknownTable name)

/-- The column of a table. -/
def column? (r : Registry) (table column : String) : Option ColumnDefinition :=
  (r.table? table).bind fun t => t.column? column

def tableExists (r : Registry) (name : String) : Bool := (r.table? name).isSome

def columnExists (r : Registry) (table column : String) : Bool := (r.column? table column).isSome

/-- The names of a table's columns in order. -/
def columnNames (r : Registry) (table : String) : Except Error (List String) :=
  (r.requireTable (trim table)).map TableDefinition.columnNames

/-- The first of the given names that is no column of a table. -/
def missingColumn? (t : TableDefinition) (columns : List String) : Option String :=
  columns.find? fun c => (t.column? c).isNone

/-- Fails unless a table has every column named. -/
def checkColumns (r : Registry) (table : String) (columns : List String) : Except Error Unit := do
  let t ← r.requireTable (trim table)
  match missingColumn? t columns with
  | some c => .error (.unknownColumn t.name (trim c))
  | none => .ok ()

/-- The affinity of the configured timestamp type. -/
def timestampAffinity (r : Registry) : Affinity := .ofType r.options.timestampType

/-- The affinity by which a column's values are stored.  All temporal columns use that of the
configured timestamp type. -/
def affinityOf (r : Registry) (c : ColumnDefinition) : Affinity :=
  if c.temporal then r.timestampAffinity else c.affinity

/-- The affinity by which a column's values are stored, if there is that column. -/
def storageAffinity? (r : Registry) (table column : String) : Option Affinity :=
  (r.column? table column).map r.affinityOf

/-! ## Changing the schema -/

/-- Fails on a locked registry. -/
def ensureUnlocked (r : Registry) (table : String) : Except Error Unit :=
  if r.locked then .error (.schemaLocked table) else .ok ()

/-- Refuses every later change. -/
def lock (r : Registry) : Registry := { r with locked := true }

/-- Puts a table in the place of the one of its name. -/
def putTable (r : Registry) (t : TableDefinition) : Registry :=
  { r with tables := Named.put TableDefinition.name t r.tables }

/-- Whether a name is the configured one. -/
def isNamed (configured : Option String) (name : String) : Bool :=
  match configured with
  | some c => sameName c name
  | none => false

def isCreateColumn (r : Registry) (name : String) : Bool := isNamed r.options.createColumn name

def isChangeColumn (r : Registry) (name : String) : Bool := isNamed r.options.changeColumn name

def isTimestamp (r : Registry) (name : String) : Bool :=
  r.isCreateColumn name || r.isChangeColumn name

/-- The constraint of a timestamp column that is given none. -/
def timestampDefault (r : Registry) : String :=
  "NOT NULL DEFAULT (" ++ r.timestampAffinity.nowExpression ++ ")"

/-- A column with what the options add to it. -/
def complete (r : Registry) (c : ColumnDefinition) : ColumnDefinition :=
  let timestamp := r.isTimestamp c.name
  let declaredType :=
    if timestamp && c.declaredType.isEmpty then r.options.timestampType else c.declaredType
  let constraints :=
    if timestamp && c.constraints.isEmpty then r.timestampDefault else c.constraints
  { name := c.name, declaredType, constraints
    temporal := timestamp || ColumnDefinition.isDateType declaredType }

/-- Registers a trigger with its statement, in place of one of the same name. -/
def addTrigger (r : Registry) (name table sql : String) : Except Error Registry := do
  let name := trim name
  let table := trim table
  checkIdentifier .trigger name
  let t ← r.requireTable table
  r.ensureUnlocked table
  let trigger : TriggerDefinition := { name, table := t.name, sql := trim sql }
  let names :=
    if t.triggers.any fun n => sameName n name then t.triggers else t.triggers ++ [name]
  .ok { r.putTable { t with triggers := names } with
    triggers := Named.put TriggerDefinition.name trigger r.triggers }

/-- The name of the trigger that keeps a column of last change up to date. -/
def touchName (table column : String) : String := table ++ "_" ++ column ++ "_touch"

/-- The statement of that trigger: a row that is updated without a new value for the column gets the
current time. -/
def touchSql (table column now : String) : String :=
  "CREATE TRIGGER IF NOT EXISTS " ++ touchName table column ++ " AFTER UPDATE ON " ++ table ++
    " FOR EACH ROW WHEN NEW." ++ column ++ " IS OLD." ++ column ++ " BEGIN UPDATE " ++ table ++
    " SET " ++ column ++ " = " ++ now ++ " WHERE rowid = NEW.rowid; END"

/-- Puts a column into a table. -/
def putColumn (r : Registry) (table : String) (c : ColumnDefinition) : Except Error Registry := do
  checkIdentifier .column c.name
  let t ← r.requireTable table
  let c := r.complete c
  let r := r.putTable { t with columns := Named.put ColumnDefinition.name c t.columns }
  if r.isChangeColumn c.name then
    r.addTrigger (touchName t.name c.name) t.name
      (touchSql t.name c.name r.timestampAffinity.nowExpression)
  else .ok r

/-- Puts columns into a table, one after the other. -/
def putColumns (r : Registry) (table : String) (columns : List ColumnDefinition) :
    Except Error Registry :=
  columns.foldlM (fun r c => r.putColumn table c) r

/-- Registers an index, in place of one of the same name. -/
def addIndex (r : Registry) (name table : String) (columns : List String) (unique : Bool) :
    Except Error Registry := do
  let name := trim name
  let table := trim table
  checkIdentifier .index name
  r.ensureUnlocked table
  if columns.isEmpty then .error (.invalidName .indexColumn "")
  else
    r.checkColumns table columns
    let t ← r.requireTable table
    let spelled := columns.map fun c =>
      match t.column? c with
      | some d => d.name
      | none => trim c
    let index : IndexDefinition := { name, table := t.name, columns := spelled, unique }
    .ok { r with indexes := Named.put IndexDefinition.name index r.indexes }

/-- The texts among constraints. -/
def constraintTexts (constraints : List TableConstraint) : List String :=
  constraints.filterMap fun
    | .sql text => some (trim text)
    | .index .. => none

/-- Replaces the constraints of a table.  An index among them is registered. -/
def replaceConstraints (r : Registry) (table : String) (constraints : List TableConstraint) :
    Except Error Registry := do
  let t ← r.requireTable table
  let r := r.putTable { t with constraints := constraintTexts constraints }
  constraints.foldlM
    (fun r c =>
      match c with
      | .sql _ => .ok r
      | .index name columns unique => r.addIndex name table columns unique)
    r

/-- Whether an index can stay when its table is replaced. -/
def keepsIndex (t : TableDefinition) (i : IndexDefinition) : Bool :=
  !sameName i.table t.name || i.columns.all fun c => (t.column? c).isSome

/-- Registers a table, in place of one of the same name.  Triggers of the old table go, and so do
indexes on columns that the new one lacks. -/
def addTable (r : Registry) (name : String) (columns : List ColumnDefinition)
    (constraints : List TableConstraint) : Except Error Registry := do
  let name := trim name
  checkIdentifier .table name
  r.ensureUnlocked name
  let r := r.putTable { name, columns := [], constraints := [], triggers := [] }
  let r := { r with triggers := r.triggers.filter fun t => !sameName t.table name }
  let r ← r.putColumns name columns
  let t ← r.requireTable name
  let r := { r with indexes := r.indexes.filter (keepsIndex t) }
  r.replaceConstraints name constraints

/-- Sets columns of a registered table: in place where the name is there, else at the end. -/
def setColumns (r : Registry) (table : String) (columns : List ColumnDefinition) :
    Except Error Registry := do
  let table := trim table
  let _ ← r.requireTable table
  r.ensureUnlocked table
  r.putColumns table columns

/-- Replaces the constraints of a registered table. -/
def setConstraints (r : Registry) (table : String) (constraints : List TableConstraint) :
    Except Error Registry := do
  let table := trim table
  let _ ← r.requireTable table
  r.ensureUnlocked table
  r.replaceConstraints table constraints

/-! ## Statements and rows -/

/-- The statement that creates a registered table. -/
def createTableSql (r : Registry) (table : String) : Except Error String :=
  (r.requireTable (trim table)).map TableDefinition.createSql

/-- The statements for one table: the table, its indexes, its triggers. -/
def createStatementsFor (r : Registry) (table : String) : Except Error (List String) := do
  let t ← r.requireTable (trim table)
  let indexes := r.indexes.filter fun i => sameName i.table t.name
  let triggers := r.triggers.filter fun g => sameName g.table t.name
  .ok (t.createSql :: (indexes.map IndexDefinition.createSql ++ triggers.map TriggerDefinition.sql))

/-- The statements for the whole schema: all tables, all indexes, all triggers. -/
def createStatements (r : Registry) : List String :=
  r.tables.map TableDefinition.createSql ++ r.indexes.map IndexDefinition.createSql ++
    r.triggers.map TriggerDefinition.sql

/-- A value of a result row: a date where the table has a temporal column of that name. -/
def decodeCell (r : Registry) (table? : Option TableDefinition) (column : String) (cell : Cell) :
    Value :=
  match table?.bind fun t => t.column? column with
  | some c => if c.temporal then cell.decode (r.affinityOf c) else cell.toValue
  | none => cell.toValue

/-- A result row as a record. -/
def decodeRow (r : Registry) (table : String) (columns : List String) (row : List Cell) : Record :=
  .ofList ((columns.zip row).map fun (column, cell) =>
    (column, r.decodeCell (r.table? table) column cell))

end Registry

end FilterStore
