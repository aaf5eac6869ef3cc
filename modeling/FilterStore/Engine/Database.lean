import FilterStore.Engine.Evaluation

/-!
# Databases

A database is the list of its objects in the order they were created: tables with their rows,
indexes, triggers and views.  Tables, views and indexes share one space of names, up to the case of
ASCII letters.

An index holds nothing here.  What it says about its table, that some values occur once, is looked
up in the rows of the table; its order is never visible.

Temporary objects stand apart.  They are gone when the connection is closed, and go before others of
their names.

The objects can be read as the rows of one more table, `sqlite_master`.  If there are tables that do
not give the numbers of rows twice, the numbers they have given are the rows of `sqlite_sequence`.
-/

namespace FilterStore.Engine

open Sql (Change Collation Column Conflict Expr Fault Key KeyColumn ObjectKind TableParts
  TriggerEvent TriggerTime)
open Text (sameName)

/-- A table with its rows, which are sorted by their numbers. -/
structure Table where
  name : String
  parts : TableParts
  /-- The text of its definition, up to where further columns go. -/
  text : String
  /-- The rest of the text. -/
  rest : String
  rows : List Row

/-- An index.  If it is unique, the values of its terms together occur once among the rows that
fulfil its condition. -/
structure Index where
  name : String
  table : String
  unique : Bool
  terms : List Expr
  condition : Option Expr
  text : String

/-- A program that runs for every row that is inserted, updated or deleted. -/
structure Trigger where
  name : String
  table : String
  time : TriggerTime
  event : TriggerEvent
  condition : Expr
  body : List Change
  text : String

/-- A query with a name. -/
structure View where
  name : String
  /-- The names of its columns, if they are given. -/
  columns : Option (List String)
  query : Sql.Select
  text : String

/-- Something with a name in a database. -/
inductive SchemaObject
  | table (t : Table)
  | index (i : Index)
  | trigger (t : Trigger)
  | view (v : View)

namespace SchemaObject

def kind : SchemaObject → ObjectKind
  | table _ => .table
  | index _ => .index
  | trigger _ => .trigger
  | view _ => .view

def name : SchemaObject → String
  | table t => t.name
  | index i => i.name
  | trigger t => t.name
  | view v => v.name

/-- The table or view an object belongs to; a table belongs to itself. -/
def tableName : SchemaObject → String
  | table t => t.name
  | index i => i.table
  | trigger t => t.table
  | view v => v.name

/-- The statement that creates an object. -/
def sql : SchemaObject → String
  | table t => t.text ++ t.rest
  | index i => i.text
  | trigger t => t.text
  | view v => v.text

def table? : SchemaObject → Option Table
  | table t => some t
  | _ => none

def index? : SchemaObject → Option Index
  | index i => some i
  | _ => none

def trigger? : SchemaObject → Option Trigger
  | trigger t => some t
  | _ => none

def view? : SchemaObject → Option View
  | view v => some v
  | _ => none

end SchemaObject

/-! ## Tables -/

namespace Table

def columns (t : Table) : List Column := t.parts.columns

/-- Where a column of a name stands. -/
def columnIndex? (t : Table) (name : String) : Option Nat :=
  t.columns.findIdx? fun c => sameName c.name name

/-- The column of a name. -/
def column? (t : Table) (name : String) : Option Column :=
  (t.columnIndex? name).bind fun i => t.columns[i]?

/-- Whether a key is the number of the row under another name. -/
def isRowIdKey (t : Table) (k : Key) : Bool := Sql.namesRows t.columns k

/-- The key that is the number of the row under another name. -/
def rowIdKey? (t : Table) : Option Key := t.parts.keys.find? t.isRowIdKey

/-- The column that is the number of the row under another name. -/
def rowIdColumn? (t : Table) : Option Nat :=
  (t.rowIdKey?.bind fun k => k.names.head?).bind t.columnIndex?

/-- Whether the numbers of rows that are gone are not given again. -/
def isLasting (t : Table) : Bool := (t.rowIdKey?.map Key.lasting).getD false

/-- The collation by which a column of a key is compared. -/
def keyCollation (t : Table) (k : KeyColumn) : Collation :=
  k.collation.getD (((t.column? k.name).map Column.collation).getD .binary)

/-- Whether a column of a key is compared as it is elsewhere. -/
def keepsCollation (t : Table) (k : KeyColumn) : Bool :=
  t.keyCollation k == t.keyCollation { k with collation := none }

/-- Whether two keys are of the same columns. -/
def sameKey (t : Table) (a b : Key) : Bool :=
  a.columns.length == b.columns.length &&
    (a.columns.zip b.columns).all fun (x, y) =>
      sameName x.name y.name && t.keyCollation x == t.keyCollation y

/-- A key with what another one of the same columns adds to it. -/
def joinedKey (a b : Key) : Key :=
  { a with primary := a.primary || b.primary, conflict := a.conflict <|> b.conflict }

/-- The keys of a table that are not the number of its rows, each once. -/
def valueKeys (t : Table) : List Key :=
  t.parts.keys.foldl (fun ks k =>
    if t.isRowIdKey k then ks
    else if ks.any (t.sameKey k) then
      ks.map fun other => if t.sameKey k other then joinedKey other k else other
    else ks ++ [k]) []

/-- The columns of the primary key, in the order of the key. -/
def primaryColumns (t : Table) : List String :=
  ((t.parts.keys.find? Key.primary).map Key.names).getD []

/-- The columns as expressions see them. -/
def columnShapes (t : Table) : List ColumnShape :=
  t.columns.map fun c => { name := c.name, affinity := c.affinity, collation := c.collation }

/-- The table as expressions see it. -/
def relation (t : Table) : Relation where
  columns := t.columnShapes
  rowIdColumn := t.rowIdColumn?.bind fun i => t.columns[i]?.map Column.name
  numbered := true
  sought := t.parts.keys.filterMap fun k => k.names.head?
  rows := t.rows

/-- The frame of a row. -/
def frame (t : Table) (row : Row) : Frame := { shape := t.relation.shape t.name, row }

/-- The greatest number of a row; zero if there are none. -/
def greatestId (t : Table) : Int64 := (t.rows.getLast?.map Row.id).getD 0

end Table

/-- Puts a row among rows that are sorted by their numbers. -/
def insertRow (row : Row) : List Row → List Row
  | [] => [row]
  | r :: rest => if row.id < r.id then row :: r :: rest else r :: insertRow row rest

/-- The name of the column that an index starts with. -/
def Index.firstColumn? (i : Index) : Option String :=
  match i.terms with
  | .column c :: _ => some c.name
  | _ => none

/-! ## Databases -/

/-- A database: its objects in the order of their creation, the temporary ones apart. -/
structure Database where
  objects : List SchemaObject
  temporary : List SchemaObject

namespace Database

/-- The database without objects. -/
def empty : Database := ⟨[], []⟩

/-- All objects, the temporary ones first. -/
def all (d : Database) : List SchemaObject := d.temporary ++ d.objects

/-- The database without its temporary objects. -/
def kept (d : Database) : Database := { d with temporary := [] }

/-- The tables that are kept. -/
def tables (d : Database) : List Table := d.objects.filterMap SchemaObject.table?

/-- The table of a name. -/
def table? (d : Database) (name : String) : Option Table :=
  (d.all.filterMap SchemaObject.table?).find? fun t => sameName t.name name

/-- All views. -/
def views (d : Database) : List View := d.all.filterMap SchemaObject.view?

/-- The view of a name. -/
def view? (d : Database) (name : String) : Option View :=
  d.views.find? fun v => sameName v.name name

/-- The object of one of several kinds that has a name. -/
def object? (d : Database) (kinds : List ObjectKind) (name : String) : Option SchemaObject :=
  d.all.find? fun o => kinds.contains o.kind && sameName o.name name

/-- The indexes of a table. -/
def indexesOf (d : Database) (table : String) : List Index :=
  (d.all.filterMap SchemaObject.index?).filter fun i => sameName i.table table

/-- All triggers in the order in which they run: the temporary ones first, and the newest before
older ones. -/
def triggers (d : Database) : List Trigger :=
  (d.temporary.filterMap SchemaObject.trigger?).reverse ++
    (d.objects.filterMap SchemaObject.trigger?).reverse

/-- The triggers of a table in the order in which they run. -/
def triggersOf (d : Database) (table : String) : List Trigger :=
  d.triggers.filter fun t => sameName t.table table

/-- Changes the tables of a name among objects. -/
def modifyTables (name : String) (f : Table → Table) (os : List SchemaObject) :
    List SchemaObject :=
  os.map fun
    | .table t => if sameName t.name name then .table (f t) else .table t
    | o => o

/-- Whether there is a temporary table of a name. -/
def isTemporary (d : Database) (name : String) : Bool :=
  (d.temporary.filterMap SchemaObject.table?).any fun t => sameName t.name name

/-- Changes the table of a name. -/
def modifyTable (d : Database) (name : String) (f : Table → Table) : Database :=
  if d.isTemporary name then { d with temporary := modifyTables name f d.temporary }
  else { d with objects := modifyTables name f d.objects }

/-- The database with nothing in its tables. -/
def emptied (d : Database) : Database :=
  let bare : SchemaObject → SchemaObject := fun
    | .table t => .table { t with rows := [] }
    | o => o
  ⟨d.objects.map bare, d.temporary.map bare⟩

/-- Adds an object. -/
def add (d : Database) (temporary : Bool) (o : SchemaObject) : Database :=
  if temporary then { d with temporary := d.temporary ++ [o] }
  else { d with objects := d.objects ++ [o] }

/-- Removes the objects that fulfil a condition. -/
def remove (d : Database) (p : SchemaObject → Bool) : Database :=
  ⟨d.objects.filter fun o => !p o, d.temporary.filter fun o => !p o⟩

/-! ## The table of all objects -/

/-- The names of the table of all objects. -/
def masterNames : List String := ["sqlite_master", "sqlite_schema"]

/-- The names of the table of temporary objects. -/
def temporaryNames : List String := ["sqlite_temp_master", "sqlite_temp_schema"]

/-- A row of the table of all objects; what has no definition of its own has no statement. -/
def masterRow (kind name table : String) (sql : Option String) : List Cell :=
  [.text kind, .text name, .text table, .integer 0, (sql.map Cell.text).getD .null]

/-- The rows of an object: its own, and for a table those of the indexes its keys come with. -/
def masterRows (o : SchemaObject) : List (List Cell) :=
  let own := masterRow o.kind.label o.name o.tableName (some o.sql)
  match o with
  | .table t =>
    own :: t.valueKeys.zipIdx.map fun (_, i) =>
      masterRow "index" ("sqlite_autoindex_" ++ t.name ++ "_" ++ toString (i + 1)) t.name none
  | _ => [own]

/-- A table of objects. -/
def master (os : List SchemaObject) : Relation where
  columns := [("type", .text), ("name", .text), ("tbl_name", .text), ("rootpage", .integer),
    ("sql", .text)].map fun (name, affinity) => { name, affinity, collation := .binary }
  rowIdColumn := none
  numbered := true
  sought := []
  rows := (os.flatMap masterRows).zipIdx.map fun (cells, i) =>
    { id := Int64.ofNat (i + 1), cells }

/-- The table of a name as expressions see it. -/
def tableRelation? (d : Database) (name : String) : Option Relation :=
  match d.table? name with
  | some t =>
    let r := t.relation
    some { r with sought := r.sought ++ (d.indexesOf t.name).filterMap Index.firstColumn? }
  | none =>
    if masterNames.any (sameName name) then some (master d.objects)
    else if temporaryNames.any (sameName name) then some (master d.temporary)
    else none

/-! ## Numbers that are not given twice -/

/-- The table of the numbers that have been given. -/
def numberingName : String := "sqlite_sequence"

/-- The table of the numbers that have been given, before any has been. -/
def emptyNumbering : Table :=
  let column := fun (name : String) =>
    ({ name, declaredType := "", notNull := false, onNull := none, collation := .binary
       default := none } : Column)
  { name := numberingName
    parts :=
      { columns := ["name", "seq"].map column, keys := [], references := [], checks := []
        flaw := none }
    text := "CREATE TABLE sqlite_sequence(name,seq", rest := ")", rows := [] }

end Database

end FilterStore.Engine
