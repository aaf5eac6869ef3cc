import FilterStore.Sql.Reader

/-!
# Reading changes

Insertions, updates and deletions of rows, and queries, which stand where changes can stand.
-/

namespace FilterStore.Sql

open Reader

/-- Names with commas between them, in brackets. -/
def bracketedNames : Reader (List String) := do
  symbol "("
  let names ← separated name (← depth)
  symbol ")"
  pure names

/-- A condition behind a keyword; without it there is none. -/
def conditionAfter (word : String) : Reader Expr := do
  if ← keyword? word then expression
  else pure always

/-! ## Changes -/

/-- A word that says what follows an error with a row. -/
def conflictWord : Reader Conflict := do
  if ← keyword? "IGNORE" then pure .ignore
  else if ← keyword? "REPLACE" then pure .replace
  else if ← keyword? "ABORT" then pure .abort
  else if ← keyword? "FAIL" then pure .fail
  else
    keyword "ROLLBACK"
    pure .rollback

/-- What follows an error with a row, if a statement says so. -/
def conflict : Reader (Option Conflict) := do
  if ← keyword? "OR" then
    let c ← conflictWord
    pure (some c)
  else pure none

/-- One row of an insertion. -/
def valueRow : Reader (List Expr) := do
  symbol "("
  let row ← exprs (← depth)
  symbol ")"
  pure row

/-- The rows of an insertion. -/
def insertSource : Reader InsertSource := do
  if ← keyword? "VALUES" then
    let rows ← separated valueRow (← depth)
    pure (.values rows)
  else if (← peek).isKeyword "SELECT" then
    let s ← query (← depth)
    pure (.select s)
  else
    keywords ["DEFAULT", "VALUES"]
    pure .defaults

/-- An insertion, its first word read. -/
def insertion (conflict : Option Conflict) : Reader Change := do
  keyword "INTO"
  let table ← tableName
  let columns ←
    if (← peek).isSymbol "(" then
      let names ← bracketedNames
      pure (some names)
    else pure none
  let source ← insertSource
  pure (.insert conflict table columns source)

/-- An assignment of an update. -/
def assignment : Reader (String × Expr) := do
  let column ← name
  symbol "="
  let e ← expression
  pure (column, e)

/-- A statement on rows, if the next word starts one. -/
def change? : Reader (Option Change) := do
  if (← peek).isKeyword "SELECT" then
    let s ← query (← depth)
    pure (some (.select s))
  else if ← keyword? "INSERT" then
    let c ← insertion (← conflict)
    pure (some c)
  else if ← keyword? "REPLACE" then
    let c ← insertion (some .replace)
    pure (some c)
  else if ← keyword? "UPDATE" then
    let conflict ← conflict
    let table ← tableName
    keyword "SET"
    let assignments ← separated assignment (← depth)
    let condition ← conditionAfter "WHERE"
    pure (some (.update conflict table assignments condition))
  else if ← keyword? "DELETE" then
    keyword "FROM"
    let table ← tableName
    let condition ← conditionAfter "WHERE"
    pure (some (.delete table condition))
  else pure none

end FilterStore.Sql
