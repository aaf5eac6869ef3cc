import FilterStore.Json.Printer
import FilterStore.Json.Shape
import FilterStore.Number.Total

/-!
# Dump documents

A dump holds the statements that create every object of a schema, the columns of every table in
their order, and the rows of every table with one JSON value a column.  After a restore it also says
which tables could not be restored, and why.

Tables are sorted by name, so two dumps of one database are the same text.
-/

namespace FilterStore

/-- Statements by the kind of object they create. -/
structure DumpSql where
  tables : List String
  views : List String
  triggers : List String
  indexes : List String
  deriving DecidableEq, Repr

namespace DumpSql

def empty : DumpSql := ⟨[], [], [], []⟩

/-- The statements in the order they are run: tables, triggers, indexes, views. -/
def replayOrder (s : DumpSql) : List String := s.tables ++ s.triggers ++ s.indexes ++ s.views

/-- How many statements there are. -/
def size (s : DumpSql) : Nat :=
  s.tables.length + s.views.length + s.triggers.length + s.indexes.length

def isEmpty (s : DumpSql) : Bool := s.size == 0

end DumpSql

/-- A dump of a database. -/
structure Document where
  sql : DumpSql
  /-- The columns of each table, in the order of the values of its rows. -/
  tables : List (String × List String)
  data : List (String × List (List Json))
  /-- Why a table could not be restored. -/
  errors : List (String × String)

/-- Why a document contradicts itself. -/
inductive DocumentFault
  | noColumns (table : String)
  | rowSize (row : Nat) (table : String) (found expected : Nat)
  deriving DecidableEq, Repr

def DocumentFault.message : DocumentFault → String
  | noColumns table => "table '" ++ table ++ "' has data but no column list"
  | rowSize row table found expected =>
    "row " ++ toString row ++ " of table '" ++ table ++ "' has " ++ toString found ++
      " values, expected " ++ toString expected

namespace Document

def empty : Document := ⟨.empty, [], [], []⟩

/-- How many rows there are in all tables. -/
def rowCount (d : Document) : Nat := Number.total (d.data.map fun t => t.2.length)

/-- The first row, from a position on, that has not the expected size. -/
def badRow? (expected index : Nat) : List (List Json) → Option (Nat × Nat)
  | [] => none
  | row :: rest =>
    if row.length = expected then badRow? expected (index + 1) rest else some (index, row.length)

/-- Fails unless the rows of a table have a value for each of its columns. -/
def checkTable (d : Document) (table : String) (rows : List (List Json)) :
    Except DocumentFault Unit :=
  match d.tables.lookup table with
  | none => .error (.noColumns table)
  | some columns =>
    match badRow? columns.length 0 rows with
    | some (row, found) => .error (.rowSize row table found columns.length)
    | none => .ok ()

/-- Fails unless every row has a value for each column of its table.  Whether the columns are those
of a database is another question. -/
def check (d : Document) : Except DocumentFault Unit :=
  d.data.forM fun t => d.checkTable t.1 t.2

/-- Texts as an array. -/
def texts (xs : List String) : Json := .array (xs.map Json.string)

/-- A document as JSON, members in the order they are declared. -/
def toJson (d : Document) : Json :=
  .object
    [("sql", .object
      [("tables", texts d.sql.tables), ("views", texts d.sql.views),
       ("triggers", texts d.sql.triggers), ("indexes", texts d.sql.indexes)]),
     ("tables", .object (d.tables.map fun t => (t.1, texts t.2))),
     ("data", .object (d.data.map fun t => (t.1, .array (t.2.map Json.array)))),
     ("errors", .object (d.errors.map fun t => (t.1, .string t.2)))]

/-- The text of a document. -/
def text (d : Document) : String := d.toJson.pretty

/-! ## Reading -/

/-- An array of strings. -/
def readTexts (depth : Nat) : Json.Reader (List String) :=
  Json.readList (fun _ => Json.readString) depth

/-- A member that holds a value of its own reader. -/
def member {σ α : Type} (name : String) (read : Nat → Json.Reader α) (put : σ → α → σ) :
    Json.Member σ :=
  ⟨name, fun depth acc cs => (read depth cs).map fun (value, rest) => (put acc value, rest)⟩

def sqlMembers : List (Json.Member DumpSql) :=
  [member "tables" readTexts fun s v => { s with tables := v },
   member "views" readTexts fun s v => { s with views := v },
   member "triggers" readTexts fun s v => { s with triggers := v },
   member "indexes" readTexts fun s v => { s with indexes := v }]

def members : List (Json.Member Document) :=
  [member "sql" (Json.readStructure sqlMembers .empty) fun d v => { d with sql := v },
   member "tables" (Json.readMap readTexts) fun d v => { d with tables := v },
   member "data" (Json.readMap (Json.readList (Json.readList Json.readValue)))
     fun d v => { d with data := v },
   member "errors" (Json.readMap fun _ => Json.readString) fun d v => { d with errors := v }]

/-- Reads a document.  What is missing is empty. -/
def parse (s : String) : Except Json.Fault Document :=
  Json.parseAs (Json.readStructure members .empty) s

end Document

end FilterStore
