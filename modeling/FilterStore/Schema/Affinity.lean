import FilterStore.Text.Letter

/-!
# Affinities

The engine does not hold a column to its declared type; it derives an *affinity* from the words in
the type and leans values towards it.  The words are looked for in a fixed order, so `CHARINT` is an
integer type and `FLOATING POINT` too, by the last three letters of `POINT`.
-/

namespace FilterStore

open Text (mentions trim)

/-- A class of storage. -/
inductive Affinity
  | integer
  | text
  /-- Values are stored as they are given. -/
  | blob
  | real
  | numeric
  deriving DecidableEq, Repr

namespace Affinity

/-- The affinity of a declared type. -/
def ofType (declared : String) : Affinity :=
  let has := mentions declared
  if has "INT" then integer
  else if has "CHAR" || has "CLOB" || has "TEXT" then text
  else if has "BLOB" || (trim declared).isEmpty then blob
  else if has "REAL" || has "FLOA" || has "DOUB" then real
  else numeric

def name : Affinity → String
  | integer => "INTEGER"
  | text => "TEXT"
  | blob => "BLOB"
  | real => "REAL"
  | numeric => "NUMERIC"

/-- The expression for the current time as a column of this affinity stores it. -/
def nowExpression : Affinity → String
  | integer => "CAST(strftime('%s', 'now') AS INTEGER)"
  | text | blob => "datetime('now')"
  | real | numeric => "julianday('now')"

end Affinity

end FilterStore
