import FilterStore.Error
import FilterStore.Schema.Affinity
import FilterStore.Text.Alphanumeric
import FilterStore.Text.Letter

/-!
# Definitions of tables, indexes and triggers

Columns, tables, indexes and triggers are kept in lists, in the order they were first registered.
Putting a thing into such a list replaces the one of the same name where it stands, and appends a
new name.  So a name, up to the case of ASCII letters, occurs once, and order is the order of first
appearance.

A definition holds what is needed to write the statement that creates the thing.  All statements say
`IF NOT EXISTS`, so that they can be run on every start.
-/

/-! ## Lists of named things -/

namespace FilterStore.Named

open Text (sameName)

variable {α : Type}

/-- The first thing of a name. -/
def find? (nameOf : α → String) (name : String) (xs : List α) : Option α :=
  xs.find? fun x => sameName (nameOf x) name

/-- Replaces the first thing of the same name, or appends. -/
def put (nameOf : α → String) (x : α) : List α → List α
  | [] => [x]
  | y :: rest =>
    if sameName (nameOf y) (nameOf x) then x :: rest else y :: put nameOf x rest

end FilterStore.Named

/-! ## Definitions -/

namespace FilterStore

open Text (trim mentions)

/-- Whether a text is a name: letters, numerals and underscores, at least one. -/
def isIdentifier (name : String) : Bool :=
  !name.isEmpty && name.toList.all fun c => Text.isAlphanumeric c || c == '_'

/-- Fails unless a text is a name. -/
def checkIdentifier (kind : NameKind) (name : String) : Except Error Unit :=
  if isIdentifier name then .ok () else .error (.invalidName kind name)

/-- A column. -/
structure ColumnDefinition where
  name : String
  declaredType : String
  constraints : String
  /-- Whether the column holds dates. -/
  temporal : Bool
  deriving DecidableEq, Repr, Inhabited

namespace ColumnDefinition

/-- A column as it is handed in, blanks around its parts dropped. -/
def ofParts (name declaredType constraints : String) : ColumnDefinition :=
  { name := trim name, declaredType := trim declaredType, constraints := trim constraints
    temporal := false }

def affinity (c : ColumnDefinition) : Affinity := .ofType c.declaredType

/-- Whether the declared type speaks of dates. -/
def isDateType (declaredType : String) : Bool :=
  mentions declaredType "DATE" || mentions declaredType "TIME"

/-- The column in a statement: its parts that are not empty. -/
def sql (c : ColumnDefinition) : String :=
  " ".intercalate ([c.name, c.declaredType, c.constraints].filter fun part => !part.isEmpty)

end ColumnDefinition

/-- A constraint as it is handed in with a table: text for the statement, or an index. -/
inductive TableConstraint
  | sql (text : String)
  | index (name : String) (columns : List String) (unique : Bool)

/-- An index. -/
structure IndexDefinition where
  name : String
  table : String
  columns : List String
  unique : Bool
  deriving DecidableEq, Repr

/-- The statement that creates an index. -/
def IndexDefinition.createSql (i : IndexDefinition) : String :=
  "CREATE " ++ (if i.unique then "UNIQUE " else "") ++ "INDEX IF NOT EXISTS " ++ i.name ++ " ON " ++
    i.table ++ " (" ++ ", ".intercalate i.columns ++ ")"

/-- A trigger with its statement. -/
structure TriggerDefinition where
  name : String
  table : String
  sql : String
  deriving DecidableEq, Repr

/-- A table. -/
structure TableDefinition where
  name : String
  columns : List ColumnDefinition
  constraints : List String
  /-- The names of its triggers. -/
  triggers : List String
  deriving DecidableEq, Repr, Inhabited

namespace TableDefinition

/-- The column of a name, blanks around it aside. -/
def column? (t : TableDefinition) (name : String) : Option ColumnDefinition :=
  Named.find? ColumnDefinition.name (trim name) t.columns

def columnNames (t : TableDefinition) : List String := t.columns.map ColumnDefinition.name

/-- The statement that creates a table: its columns, then its constraints. -/
def createSql (t : TableDefinition) : String :=
  "CREATE TABLE IF NOT EXISTS " ++ t.name ++ " (" ++
    ", ".intercalate (t.columns.map ColumnDefinition.sql ++ t.constraints) ++ ")"

end TableDefinition

end FilterStore
