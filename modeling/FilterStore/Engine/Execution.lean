import FilterStore.Engine.Definition
import FilterStore.Query.Basic
import FilterStore.Sql.StatementReader
import FilterStore.Text.Letter
import FilterStore.Transaction

/-!
# Running statements

A text is *prepared* before it runs: it is read and the names of its first statement are looked up;
if it changes the schema, that is tried where there are no rows.
A *query* is one statement with values for its parameters.  Whatever follows it is prepared as well,
to see that it is nothing.  A *batch* is a text of any number of statements that run one after the
other without values; if one fails, those before it stay done.

A query can be run in a transaction of its own, or else it runs in the one that is open.  If it
fails, or if the transaction cannot be committed, the transaction is undone, unless the query has
ended it already.
-/

namespace FilterStore.Engine

open Sql (Change Control Definition EngineError Fault Parsed Statement)

/-- What a statement answers. -/
structure ResultSet where
  /-- The headings of the rows; none if the statement has no rows to give. -/
  columns : List String
  rows : List (List Cell)
  /-- How many rows the last change changed. -/
  affected : Nat
  /-- The number of the row inserted last, for insertions. -/
  insertId : Option Int64

/-- The first value of the first row; null if there is none. -/
def ResultSet.first (r : ResultSet) : Cell := (r.rows.headD []).headD .null

/-- What works on a connection and may be refused by the engine. -/
abbrev Work := ExceptT EngineError (StateM Connection)

/-- Tries a change of the schema where there are no rows. -/
def Connection.checkDefinition (c : Connection) (d : Definition) : Except Fault Unit :=
  let bare := { c with database := c.database.emptied, readOnly := false }
  match ((Step.whole (Step.define d)).run.run bare).1 with
  | .ok _ => .ok ()
  | .error h => .error h.fault

/-- Reads the first statement of a text and looks up its names. -/
def prepare (c : Connection) (text : String) : Except Fault (Option Parsed) := do
  let parsed ← Parsed.ofText text
  match parsed.map Parsed.statement with
  | some (.change change) => c.checkChange change
  | some (.define d) => c.checkDefinition d
  | _ => .ok ()
  .ok parsed

/-- What is wrong with a text that should hold no statement: the first of its statements that cannot
be prepared, or else that there are any. -/
def restFault? (c : Connection) (found : Bool) : Nat → String → Option (Fault × String)
  | 0, text => if found then some (.severalStatements, text) else none
  | fuel + 1, text =>
    match prepare c text with
    | .error fault => some (fault, text)
    | .ok none => if found then some (.severalStatements, text) else none
    | .ok (some parsed) => restFault? c true fuel parsed.rest

/-- The name of the table whose rows a statement changes. -/
def changedTable? : Change → Option String
  | .insert _ table _ _ | .update _ table _ _ | .delete table _ => some table
  | .select _ => none

namespace Step

/-- Refuses a change of rows in a database that may be read only, but for its temporary tables. -/
def checkTarget (change : Change) : Step Unit := do
  let c ← get
  if c.readOnly && (changedTable? change).any fun t => !c.database.isTemporary t then
    stop .readOnly

/-- Refuses what has changed the schema of a database that may be read only. -/
def checkSchema (before : Connection) : Step Unit := do
  let statements := fun (c : Connection) => c.database.objects.map SchemaObject.sql
  let c ← get
  if c.readOnly && statements c != statements before then stop .readOnly

/-- Runs a statement.  The answer has headings only if the statement has rows to give. -/
def perform (parameters : List Cell) : Statement → Step (List String × List (List Cell))
  | .change (.select s) => do
    let w ← world parameters
    let rows ← ofExcept (queryRows w [] false s)
    pure (headings w s, rows)
  | .change c => do
    checkTarget c
    wholeChange parameters c
    pure ([], [])
  | .define d => do
    let before ← get
    let headings ← whole do
      let headings ← define d
      checkSchema before
      pure headings
    pure (headings, [])
  | .control c => do
    control c
    pure ([], [])

end Step

/-- Whether a text starts as an insertion does. -/
def startsInsertion (text : String) : Bool :=
  let start := (Text.trimStart text.toList).map Char.toUpper
  "INSERT".toList.isPrefixOf start || "REPLACE".toList.isPrefixOf start

/-- Whether there are as many values as a statement has parameters; one too many is enough to
tell. -/
def checkParameters (given needed : Nat) : Except Fault Unit :=
  let got := min given (needed + 1)
  if got = needed then .ok () else .error (.parameterCount got needed)

/-- The answer to a statement that has run. -/
def answer (c : Connection) (text : String) (columns : List String) (rows : List (List Cell)) :
    ResultSet :=
  if columns.isEmpty then
    { columns, rows, affected := c.changes
      insertId := if startsInsertion text then some c.lastInsertId else none }
  else { columns, rows, affected := 0, insertId := none }

namespace Work

/-- Refuses a text. -/
def refuse {α : Type} (fault : Fault) (source sql : String) : Work α :=
  throw { fault, source, sql := some sql }

/-- A computation on a text that only reads. -/
def ofExcept {α : Type} (source : String) (sql : Option String) (e : Except Fault α) : Work α :=
  ExceptT.mk (pure (e.mapError fun fault => { fault, source, sql }))

/-- A step of a statement of a text. -/
def ofStep {α : Type} (source : String) (sql : Option String) (s : Step α) : Work α :=
  ExceptT.mk do
    let outcome ← ExceptT.run s
    pure (outcome.mapError fun h => { fault := h.fault, source, sql })

/-- Prepares a text that holds one statement. -/
def prepareSingle (sql : String) : Work (Option Parsed) := do
  let c ← get
  match ← ofExcept sql (some sql) (prepare c sql) with
  | none => pure none
  | some parsed =>
    match restFault? c false sql.length parsed.rest with
    | some (fault, source) => refuse fault source sql
    | none => pure (some parsed)

/-- Runs a query in the transaction that is open, or else by itself. -/
def query (q : Query) : Work ResultSet := do
  let parsed ← prepareSingle q.sql
  let needed := (parsed.map Parsed.parameters).getD 0
  ofExcept q.sql (some q.sql) (checkParameters q.values.length needed)
  match parsed with
  | none => refuse .noStatement q.sql q.sql
  | some parsed =>
    let (columns, rows) ←
      ofStep q.sql (some q.sql) (Step.perform (q.values.map bound) parsed.statement)
    pure (answer (← get) q.sql columns rows)

/-- Runs the statements of a text; `sql` is what is reported of it. -/
def runAll (sql : Option String) : Nat → String → Work Unit
  | 0, _ => pure ()
  | fuel + 1, text => do
    match ← ofExcept text sql (prepare (← get) text) with
    | none => pure ()
    | some parsed =>
      let _ ← ofStep text sql (Step.perform [] parsed.statement)
      runAll sql fuel parsed.rest

/-- Runs a batch. -/
def batch (sql : String) : Work Unit := runAll (some sql) (sql.length + 1) sql

/-- Runs a batch of which nothing is reported if it fails. -/
def plainBatch (sql : String) : Work Unit := runAll none (sql.length + 1) sql

end Work

/-! ## Transactions -/

/-- Begins or ends a transaction. -/
def Work.control (sql : Option String) (c : Control) : Work Unit := ofStep "" sql (Step.control c)

/-- The bounds of a transaction.  `sql` are the statements that begin it and end it, if they are
reported when they fail.  A transaction that was ended by the work in it is not undone. -/
def transactionBounds (sql : Option (String × String)) : Bounds EngineError Connection where
  begin := Work.control (sql.map (·.1)) .begin
  commit := Work.control (sql.map (·.2)) .commit
  undo := do
    let _ ← ExceptT.run (Work.control none .rollback)

/-- Runs a query in a transaction of its own. -/
def Work.execute (q : Query) : Work ResultSet :=
  (transactionBounds (some ("BEGIN", "COMMIT"))).whole (Work.query q)

end FilterStore.Engine
