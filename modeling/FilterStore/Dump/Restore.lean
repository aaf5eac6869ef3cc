import FilterStore.Dump.Snapshot

/-!
# Restoring a dump

First the statements of a dump are run, all of them or, if one fails, none.  Then the rows are
inserted table by table, while references between tables are not enforced.

The recorded columns of a table have to be those it has, in any order, and the rows have to have a
value for each.  A table for which this is not so is passed over.  If a row cannot be inserted, its
table is left as it was.  Either way the table is reported and the others are not touched by it.  A
row that may not be stored beside the rows that are there is left out.
-/

namespace FilterStore

open Text (sameName)

/-- Why a table was not restored. -/
inductive RestoreFault
  | noTable (table : String)
  | columnCount (table : String) (live recorded : Nat)
  | noColumn (table column : String)
  | rowSize (row : Nat) (table : String) (found expected : Nat)
  | notInserted (f : Failure)
  deriving DecidableEq, Repr

def RestoreFault.message : RestoreFault → String
  | noTable table => "table '" ++ table ++ "' does not exist"
  | columnCount table live recorded =>
    "table '" ++ table ++ "' has " ++ toString live ++ " columns but the dump records " ++
      toString recorded
  | noColumn table column => "table '" ++ table ++ "' has no column '" ++ column ++ "'"
  | rowSize row table found expected =>
    "row " ++ toString row ++ " of table '" ++ table ++ "' has " ++ toString found ++
      " values, expected " ++ toString expected
  | notInserted f => f.message

/-- Checks the recorded columns of a table, and its rows, against the columns it has. -/
def checkColumns (table : String) (recorded live : List String) (rows : List (List Json)) :
    Except RestoreFault Unit :=
  if live.isEmpty then .error (.noTable table)
  else if recorded.length ≠ live.length then
    .error (.columnCount table live.length recorded.length)
  else
    match recorded.find? fun c => !live.any (sameName c) with
    | some column => .error (.noColumn table column)
    | none =>
      match Document.badRow? recorded.length 0 rows with
      | some (row, found) => .error (.rowSize row table found recorded.length)
      | none => .ok ()

/-! ## Loading rows -/

/-- Something that rows can be loaded into. -/
structure Target (σ : Type) where
  /-- The columns of a table; none if there is no such table. -/
  columns : σ → String → List String
  /-- Inserts a row into the named columns of a table. -/
  insert : String → List String → List Json → ExceptT Failure (StateM σ) Unit
  /-- The bounds of a transaction. -/
  bounds : Bounds Failure σ

namespace Target

variable {σ : Type}

/-- Inserts rows one after the other, all of them or, if one fails, none. -/
def insertRows (target : Target σ) (table : String) (columns : List String)
    (rows : List (List Json)) : StateM σ (Option RestoreFault) := do
  match ← ExceptT.run (target.bounds.whole (rows.forM (target.insert table columns))) with
  | .ok () => pure none
  | .error f => pure (some (.notInserted f))

/-- Loads the rows of a table. -/
def loadTable (target : Target σ) (d : Document) (table : String) (rows : List (List Json)) :
    StateM σ (Option RestoreFault) := do
  let recorded := (d.tables.lookup table).getD []
  match checkColumns table recorded (target.columns (← get) table) rows with
  | .error f => pure (some f)
  | .ok () => if rows.isEmpty then pure none else target.insertRows table recorded rows

/-- Loads tables, and answers why some could not be loaded. -/
def load (target : Target σ) (d : Document) :
    List (String × List (List Json)) → StateM σ (List (String × RestoreFault))
  | [] => pure []
  | (table, rows) :: rest => do
    let fault ← target.loadTable d table rows
    let faults ← load target d rest
    pure ((fault.map fun f => (table, f)).toList ++ faults)

end Target

/-- A connection as something that rows can be loaded into.  A table is looked up under its name up
to a null character. -/
def Target.connection : Target Engine.Connection where
  columns c table :=
    match (c.world [] .statement).relation? (String.ofList (Engine.untilNull table)) with
    | some r => r.columns.map Engine.ColumnShape.name
    | none => []
  insert table columns row := do
    let _ ← Action.query ⟨Replay.insertSql table columns, row.map Cell.ofJson⟩
  bounds := Action.bounds

namespace Document

/-- Runs the statements of a document. -/
def replay (d : Document) : Action Unit :=
  Action.transaction (d.sql.replayOrder.forM fun sql => Action.batch (Replay.tolerant sql))

/-- Has references between tables enforced or not, which cannot be changed in a transaction. -/
def enforceReferences (enforced : Bool) : StateM Engine.Connection Unit :=
  modify fun c => if c.transaction.isNone then { c with foreignKeys := enforced } else c

/-- Loads the rows of a document.  References between tables are not enforced meanwhile. -/
def loadRows (d : Document) : StateM Engine.Connection (List (String × RestoreFault)) := do
  let enforced := (← get).foreignKeys
  enforceReferences false
  let faults ← Target.connection.load d d.data
  if enforced then enforceReferences true
  pure faults

/-- Asks the database itself for the columns of a table. -/
def columnsSql : String := "SELECT name FROM pragma_table_info(?1) ORDER BY cid"

/-- The statement that is run first, if there is anything to restore. -/
def firstStatement? (d : Document) : Option String :=
  (d.sql.replayOrder.map Replay.tolerant ++ d.data.map fun _ => columnsSql).head?

/-- Restores a document, and answers it with the tables that could not be restored. -/
def restore (d : Document) : Action Document := do
  d.replay
  let faults ← ExceptT.lift d.loadRows
  pure { d with errors := faults.map fun (table, f) => (table, f.message) }

end Document

end FilterStore
