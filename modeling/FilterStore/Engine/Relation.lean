import FilterStore.Calendar.Instant
import FilterStore.Sql.Statement
import FilterStore.Text.Letter

/-!
# What expressions see

An expression is evaluated against *frames*, each a row with the shape of its table, the innermost
first: the row of a query stands in front of the row of the query around it.  A name without a table
means the first frame that has such a column.  The rows of a trigger, `NEW` and `OLD`, are only
reached by their names.

Every row of a table has a number.  It goes by the names `rowid`, `oid` and `_rowid_`, unless they
are taken by columns.  The rows of a view have numbers as well, but no name leads to them.
-/

namespace FilterStore.Engine

open Sql (Collation ColumnName Fault)
open Text (sameName)

/-- A row with its number. -/
structure Row where
  id : Int64
  cells : List Cell
  deriving Inhabited

/-- What is known of the cells in a column. -/
structure ColumnShape where
  name : String
  affinity : Affinity
  collation : Collation

/-- What is known of the rows of a table without looking at them. -/
structure Shape where
  name : String
  columns : List ColumnShape
  /-- Whether its columns are only reached through its name. -/
  qualified : Bool
  /-- Whether the numbers of the rows can be asked for. -/
  numbered : Bool

/-- A row with its shape. -/
structure Frame where
  shape : Shape
  row : Row

/-- The rows of a table with their columns. -/
structure Relation where
  columns : List ColumnShape
  /-- The column that holds the numbers of the rows, if there is one. -/
  rowIdColumn : Option String
  /-- Whether the numbers of the rows can be asked for. -/
  numbered : Bool
  /-- The columns by whose values rows are looked up. -/
  sought : List String
  rows : List Row

/-- What an expression belongs to. -/
inductive Setting
  | statement
  | trigger
  /-- A condition on the rows of a table. -/
  | check
  | indexTerm
  | indexCondition
  deriving DecidableEq

/-- How the places are called where only some expressions may stand. -/
def Setting.label : Setting → String
  | statement => "statements"
  | trigger => "triggers"
  | check => "CHECK constraints"
  | indexTerm => "index expressions"
  | indexCondition => "partial index WHERE clauses"

/-- What an expression sees besides its frames. -/
structure World where
  /-- The table or the view of a name. -/
  relation : String → Except Fault Relation
  now : Calendar.Instant
  /-- The bound values. -/
  parameters : List Cell
  setting : Setting

/-- The table or the view of a name, if it can be read. -/
def World.relation? (w : World) (name : String) : Option Relation := (w.relation name).toOption

/-- Where a name leads. -/
inductive Target
  | cell (index : Nat) (shape : ColumnShape)
  | rowId

/-- The names of a row's number. -/
def rowIdNames : List String := ["rowid", "oid", "_rowid_"]

/-- Where a name stands in a list of columns, counted on from an index. -/
def columnAt? (name : String) (index : Nat) : List ColumnShape → Option Target
  | [] => none
  | c :: rest =>
    if sameName c.name name then some (.cell index c) else columnAt? name (index + 1) rest

namespace Shape

/-- Whether a name may be looked up in a shape. -/
def answers (s : Shape) (c : ColumnName) : Bool :=
  match c.table with
  | some t => sameName t s.name
  | none => !s.qualified

/-- Where a name leads in a shape. -/
def target? (s : Shape) (c : ColumnName) : Option Target :=
  if s.answers c then
    match columnAt? c.name 0 s.columns with
    | some t => some t
    | none => if s.numbered && rowIdNames.any (sameName c.name) then some .rowId else none
  else none

end Shape

/-- The affinity of what a name leads to. -/
def Target.affinity : Target → Affinity
  | cell _ c => c.affinity
  | rowId => .integer

/-- The collation of what a name leads to; numbers of rows have none. -/
def Target.collation? : Target → Option Collation
  | cell _ c => some c.collation
  | rowId => none

/-- The cell of a row that a name leads to. -/
def Target.cellOf (row : Row) : Target → Cell
  | cell i _ => row.cells.getD i .null
  | rowId => .integer row.id

/-- Where a name leads in the first shape that knows it. -/
def target? (shapes : List Shape) (c : ColumnName) : Option Target :=
  shapes.findSome? fun s => s.target? c

/-- The cell that a name leads to in the first frame that knows it. -/
def cell? (frames : List Frame) (c : ColumnName) : Option Cell :=
  frames.findSome? fun f => (f.shape.target? c).map fun t => t.cellOf f.row

/-- What a name means that leads nowhere: the truth values have names, and a name in double quotes
is a text. -/
def constant? (c : ColumnName) : Option Cell :=
  if c.table.isSome then none
  else if c.quoted then some (.text c.name)
  else
    match Text.upper c.name with
    | "TRUE" => some (.integer 1)
    | "FALSE" => some (.integer 0)
    | _ => none

/-- How a name is written. -/
def writtenName (c : ColumnName) : String :=
  match c.table with
  | some t => t ++ "." ++ c.name
  | none => c.name

/-- The shape of a relation under a name. -/
def Relation.shape (r : Relation) (name : String) : Shape :=
  { name, columns := r.columns, qualified := false, numbered := r.numbered }

end FilterStore.Engine
