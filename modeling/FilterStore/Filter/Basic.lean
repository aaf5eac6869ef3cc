import FilterStore.Text.Letter
import FilterStore.Value.Basic

/-!
# Search requests

A request selects columns, filters rows, orders and limits them.  Its filter is a flat list of
entries, as applications write it: brackets open and close groups, a clause names a column, an
operator and an operand, and a raw clause is a piece of SQL with the cells for its placeholders.  An
entry may say how it is joined to what stands before it; where it does not, the request's own
connective joins, and without one `AND`.

Nothing is checked here.  A clause keeps its column and operator as they were written, since the
compiler reports what is wrong with them together with the position of the entry.
-/

namespace FilterStore

open Text (trim upper)

/-- How an entry is joined to the one before it. -/
inductive Connective
  | and
  | or
  | xor
  /-- Joined by `AND` and negated. -/
  | not
  deriving DecidableEq, Repr

namespace Connective

def name : Connective → String
  | and => "AND"
  | or => "OR"
  | xor => "XOR"
  | not => "NOT"

/-- Reads a connective, whatever its case and the blanks around it. -/
def parse? (s : String) : Option Connective :=
  let s := upper (trim s)
  if s = "AND" then some and
  else if s = "OR" then some or
  else if s = "XOR" then some xor
  else if s = "NOT" then some not
  else none

/-- The text between two conditions.  The engine knows no `XOR`; the conditions are truth values in
parentheses, and two of those differ exactly when one of them holds.  The comparison binds tighter
than `AND` and `OR`, so `a AND b XOR c` reads `a AND (b XOR c)`. -/
def joiner : Connective → String
  | and => " AND "
  | or => " OR "
  | xor => " <> "
  | not => " AND NOT "

end Connective

/-- The direction of an order. -/
inductive Direction
  | asc
  | desc
  deriving DecidableEq, Repr

namespace Direction

/-- Whatever does not say `DESC` is ascending. -/
def parse (s : String) : Direction := if upper (trim s) = "DESC" then desc else asc

def name : Direction → String
  | asc => "ASC"
  | desc => "DESC"

end Direction

/-- A piece of SQL with the cells for its placeholders, left to right. -/
structure RawClause where
  sql : String
  values : List Cell
  deriving Inhabited

/-- The right-hand side of a clause. -/
inductive Operand
  | value (v : Value)
  | raw (r : RawClause)

/-- A condition on a column. -/
structure ColumnClause where
  column : String
  operator : String
  operand : Option Operand
  connective : Option Connective

/-- An entry of a filter. -/
inductive Entry
  /-- An opening bracket, and how its group is joined to what stands before it. -/
  | opening (connective : Option Connective)
  | closing
  | raw (r : RawClause)
  | column (c : ColumnClause)

/-- A term of an order. -/
structure OrderTerm where
  column : String
  direction : Direction
  deriving DecidableEq, Repr

/-- How many rows are wanted, possibly after skipping some. -/
inductive Limit
  | count (n : UInt64)
  | range (offset count : UInt64)
  deriving DecidableEq, Repr

/-- A column of a result. -/
inductive Selector
  | column (name : String)
  | raw (r : RawClause)

/-- A search request. -/
structure Spec where
  filter : List Entry
  /-- No selector stands for all columns of the table. -/
  columns : List Selector
  limit : Option Limit
  connective : Option Connective
  order : List OrderTerm

/-- The request for all columns of all rows. -/
def Spec.empty : Spec := ⟨[], [], none, none, []⟩

/-- How entries are joined that do not say it themselves. -/
def Spec.joining (s : Spec) : Connective := s.connective.getD .and

end FilterStore
