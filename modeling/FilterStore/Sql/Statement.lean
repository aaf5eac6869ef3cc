import FilterStore.Schema.Affinity
import FilterStore.Sql.Fault
import FilterStore.Text.Letter
import FilterStore.Value.Basic

/-!
# Statements of SQL

The part of the language the engine runs: definitions of tables, indexes, triggers and views,
statements on the rows of one table at a time, with subqueries inside expressions, and the
statements that begin and end transactions.

Names are kept as they are written.  They are looked up, up to the case of ASCII letters, when a
statement is checked and again when it runs.
-/

namespace FilterStore.Sql

/-! ## Collations

A *collation* says how two texts compare: by all their characters, by their characters up to the
case of ASCII letters, or without the spaces at their ends.  Every column has one, and an expression
can be given one.

Texts that are compared without regard to case are compared up to a null character, and where
nothing differs up to there the shorter one comes first. -/

/-- How texts compare. -/
inductive Collation
  | binary
  /-- ASCII letters of both cases are one. -/
  | noCase
  /-- Spaces at the end do not count. -/
  | trimmed
  deriving DecidableEq, Repr

namespace Collation

/-- The collation of a name. -/
def ofName? (name : String) : Option Collation :=
  match Text.upper name with
  | "BINARY" => some binary
  | "NOCASE" => some noCase
  | "RTRIM" => some trimmed
  | _ => none

/-- The characters of a text that are compared first. -/
def folded (c : Collation) (s : String) : List Nat :=
  let cs := s.toList
  (match c with
    | binary => cs
    | noCase => (cs.takeWhile (· != Char.ofNat 0)).map Char.toLower
    | trimmed => (cs.reverse.dropWhile (· == ' ')).reverse).map Char.toNat

/-- The length that is compared if those characters are equal. -/
def tie (c : Collation) (s : String) : Nat :=
  match c with
  | noCase => s.utf8ByteSize
  | _ => 0

/-- Compares two texts. -/
def order (c : Collation) (s t : String) : Ordering :=
  (compare (c.folded s) (c.folded t)).then (compare (c.tie s) (c.tie t))

end Collation

/-! ## Expressions and statements -/

/-- Operators with an operand on each side. -/
inductive BinaryOp
  | or
  | and
  | equal
  | notEqual
  | less
  | lessEqual
  | greater
  | greaterEqual
  /-- Equality that takes null for a value like others. -/
  | is
  | isNot
  | add
  | subtract
  | multiply
  | divide
  | remainder
  | bitAnd
  | bitOr
  | shiftLeft
  | shiftRight
  | concat
  deriving DecidableEq, Repr

/-- Functions of all rows of a group. -/
inductive Aggregate
  | count
  | min
  | max
  | sum
  | total
  | average
  deriving DecidableEq, Repr

/-- What follows an error with a row. -/
inductive Conflict
  /-- The statement fails. -/
  | abort
  /-- The statement fails, and what it did to other rows before stays. -/
  | fail
  /-- The transaction is undone. -/
  | rollback
  /-- The row is left out. -/
  | ignore
  /-- Rows in the way are deleted. -/
  | replace
  deriving DecidableEq, Repr

/-- How much is undone when an error follows. -/
def Conflict.undo : Conflict → Undo
  | fail => .nothing
  | rollback => .transaction
  | _ => .statement

/-- The name of a column in an expression. -/
structure ColumnName where
  table : Option String
  name : String
  /-- A name in double quotes that is no column is a text. -/
  quoted : Bool
  /-- Where it stands, in bytes. -/
  offset : Nat
  deriving DecidableEq, Repr

/-- The name of a function in an expression. -/
structure FunctionName where
  name : String
  /-- Where it stands, in bytes. -/
  offset : Nat
  deriving DecidableEq, Repr

/-- A table that rows are taken from, and the name it goes by. -/
structure Source where
  table : String
  name : String
  deriving DecidableEq, Repr

mutual

/-- An expression. -/
inductive Expr
  | literal (c : Cell)
  /-- A bound value, counted from one, and where it is written, in bytes. -/
  | parameter (index offset : Nat)
  | column (name : ColumnName)
  /-- A name that stands for a value unless it is that of a column. -/
  | named (name : ColumnName) (e : Expr)
  /-- The selected value at a place, counted from one, and where it is written, in bytes. -/
  | place (n : Int64) (offset : Nat)
  | negate (e : Expr)
  /-- All bits turned over. -/
  | complement (e : Expr)
  /-- A plus sign changes nothing but that the operand is no column any more. -/
  | plus (e : Expr)
  | not (e : Expr)
  | binary (op : BinaryOp) (left right : Expr)
  | isNull (e : Expr)
  | notNull (e : Expr)
  | like (e pattern : Expr)
  | likeEscape (e pattern escape : Expr)
  | glob (e pattern : Expr)
  | regexp (e pattern : Expr)
  | between (e low high : Expr)
  | isIn (e : Expr) (items : List Expr)
  | inRows (e : Expr) (s : Select)
  | hasRows (s : Select)
  /-- The first value of the first row. -/
  | first (s : Select)
  | cast (e : Expr) (affinity : Affinity)
  /-- A value that is compared by the collation of a name. -/
  | collate (e : Expr) (collation : String)
  /-- The value that goes with the first condition that holds. -/
  | choice (branches : List Branch) (otherwise : Expr)
  /-- The value that goes with the first value that is equal. -/
  | choiceOf (e : Expr) (branches : List Branch) (otherwise : Expr)
  | call (function : FunctionName) (arguments : List Expr)
  /-- The number of rows of the group. -/
  | countRows (name : FunctionName)
  /-- Of equal values only the first may count. -/
  | aggregate (function : Aggregate) (name : FunctionName) (distinct : Bool) (e : Expr)
  /-- A trigger makes the statement fail that fired it. -/
  | raise (undo : Undo) (message : Expr)
  /-- A trigger leaves out the row for which it runs. -/
  | leaveOut

/-- A value and what it is chosen by. -/
inductive Branch
  | mk (test value : Expr)

/-- Rows taken from at most one table, and of equal ones possibly only the first.  Rows with equal
values in the groups, if there are any, become one.  A condition that is not given is the literal
one; a limit that is not given is minus one.  The guide is a least or a greatest value of a group:
columns are taken from the row that has it, and from the first row if there is no guide. -/
inductive Select
  | mk (distinct : Bool) (columns : List Projection) (source : Option Source) (condition : Expr)
      (groups : List Expr) (having : Expr) (order : List SortTerm) (guide limit offset : Expr)

/-- Selected columns. -/
inductive Projection
  /-- All columns, possibly of the table of a name. -/
  | all (table : Option String)
  /-- A value and the heading of its column, which is the text of the expression unless it is
  given. -/
  | value (e : Expr) (heading : String) (named : Bool)

/-- A term of an order.  Null comes before all else unless it counts as the greatest value. -/
inductive SortTerm
  | mk (e : Expr) (descending greatNull : Bool)

end

instance : Inhabited Expr := ⟨.literal .null⟩

/-- Whether a name is one of the truth values. -/
def ColumnName.isTruth (c : ColumnName) : Bool :=
  c.table.isNone && !c.quoted && ["TRUE", "FALSE"].contains (Text.upper c.name)

/-- Whether an expression is a name, that of a column or of a truth value. -/
def Expr.isName : Expr → Bool
  | column _ => true
  | _ => false

/-- Whether an expression is the name of a truth value. -/
def Expr.isTruth : Expr → Bool
  | column c => c.isTruth
  | _ => false

/-- The rows of an insertion. -/
inductive InsertSource
  /-- One row of defaults. -/
  | defaults
  | values (rows : List (List Expr))
  | select (s : Select)

/-- A statement on rows.  If it does not say what follows an error with a row, the table does. -/
inductive Change
  | select (s : Select)
  /-- Without a list of columns all are meant. -/
  | insert (conflict : Option Conflict) (table : String) (columns : Option (List String))
      (source : InsertSource)
  | update (conflict : Option Conflict) (table : String) (assignments : List (String × Expr))
      (condition : Expr)
  | delete (table : String) (condition : Expr)

/-- An expression with its text. -/
structure WrittenExpr where
  expr : Expr
  text : String

/-- What becomes of the rows that refer to a row that goes or gets another key. -/
inductive ReferenceAction
  /-- Nothing, and the statement fails if they are left dangling. -/
  | nothing
  /-- The statement fails at once. -/
  | restrict
  | setNull
  | setDefault
  /-- They go too, or refer to the new key. -/
  | cascade
  deriving DecidableEq, Repr

/-- A reference of columns to those of another table.  Without columns the primary key is meant. -/
structure Reference where
  columns : List String
  table : String
  parentColumns : Option (List String)
  onDelete : ReferenceAction
  onUpdate : ReferenceAction
  /-- Whether it may be broken until the transaction ends. -/
  deferred : Bool
  deriving DecidableEq, Repr

/-- A column of a key; its own collation goes before that of the column. -/
structure KeyColumn where
  name : String
  collation : Option Collation
  deriving DecidableEq, Repr

/-- A list of columns whose values together occur once. -/
structure Key where
  columns : List KeyColumn
  primary : Bool
  /-- Whether it is the constraint of a column, and sorted from its greatest value. -/
  descending : Bool
  /-- What follows if values occur twice; the statement fails unless something else is said. -/
  conflict : Option Conflict
  /-- Whether numbers of rows that are gone are not given again. -/
  lasting : Bool
  deriving DecidableEq, Repr

/-- The names of a key's columns. -/
def Key.names (k : Key) : List String := k.columns.map KeyColumn.name

/-- A column of a table. -/
structure Column where
  name : String
  declaredType : String
  notNull : Bool
  /-- What follows if a required cell is missing; the statement fails unless something else is
  said. -/
  onNull : Option Conflict
  collation : Collation
  default : Option WrittenExpr

/-- The affinity of a column. -/
def Column.affinity (c : Column) : Affinity := .ofType c.declaredType

/-- Whether a key of a table with columns is another name of the numbers of rows: it is the primary
key, of one column, of type `INTEGER`, and not sorted from its greatest value. -/
def namesRows (columns : List Column) (key : Key) : Bool :=
  match key.primary && !key.descending, key.columns with
  | true, [k] =>
    columns.any fun c => Text.sameName c.name k.name && Text.sameName c.declaredType "INTEGER"
  | _, _ => false

/-- The parts of a table's definition. -/
structure TableParts where
  columns : List Column
  /-- Keys in the order they are written. -/
  keys : List Key
  references : List Reference
  /-- Conditions on rows, with the name or the text they are reported under. -/
  checks : List WrittenExpr
  /-- The first thing that is wrong with the definition, if anything is. -/
  flaw : Option Fault

/-- When a trigger runs. -/
inductive TriggerTime
  | before
  | after
  /-- In place of a change to a view. -/
  | insteadOf
  deriving DecidableEq, Repr

/-- What a trigger waits for. -/
inductive TriggerEvent
  | insert
  /-- With a list of columns, an update of one of them. -/
  | update (columns : Option (List String))
  | delete
  deriving DecidableEq, Repr

/-- A name as it is written in a statement, with its quotes. -/
structure Mention where
  written : String
  /-- Where it stands, in bytes. -/
  offset : Nat
  deriving DecidableEq, Repr

/-- What is created. -/
structure Creation where
  /-- Whether it is gone when the connection is closed. -/
  temporary : Bool
  ifNotExists : Bool
  name : String
  mention : Mention
  deriving DecidableEq, Repr

/-- A statement that changes the schema.  The text of an object is what is kept of the statement. -/
inductive Definition
  /-- The text is cut where further columns go. -/
  | createTable (c : Creation) (parts : TableParts) (text rest : String)
  | addColumn (table : String) (column : Column) (parts : TableParts) (text : String)
  | createIndex (ifNotExists : Bool) (unique : Bool) (name table : String) (terms : List Expr)
      (condition : Option Expr) (text : String)
  | createTrigger (c : Creation) (table : String) (time : TriggerTime) (event : TriggerEvent)
      (condition : Expr) (body : List Change) (text : String)
  | createView (c : Creation) (columns : Option (List String)) (query : Select) (text : String)
  | dropTable (ifExists : Bool) (name : String)
  | dropIndex (ifExists : Bool) (name : String)
  | dropTrigger (ifExists : Bool) (name : String)
  | dropView (ifExists : Bool) (name : String)

/-- A statement that begins or ends a transaction, or part of one. -/
inductive Control
  | begin
  | commit
  | rollback
  /-- Marks a place in a transaction. -/
  | mark (name : String)
  /-- Forgets a mark and those behind it. -/
  | release (name : String)
  /-- Undoes what was done since a mark. -/
  | rollbackTo (name : String)
  deriving DecidableEq, Repr

/-- A statement. -/
inductive Statement
  | change (c : Change)
  | define (d : Definition)
  | control (c : Control)

end FilterStore.Sql
