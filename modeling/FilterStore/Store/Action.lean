import FilterStore.Engine.Execution
import FilterStore.Failure

/-!
# Actions

An action works on a connection and may fail, for a reason of the engine or one of its own.
-/

namespace FilterStore

open Engine (Connection ResultSet Work transactionBounds)

/-- What works on a connection and may fail. -/
abbrev Action := ExceptT Failure (StateM Connection)

namespace Action

/-- Work that only the engine may refuse. -/
def ofWork {α : Type} (work : Work α) : Action α :=
  ExceptT.mk do
    let outcome ← ExceptT.run work
    pure (outcome.mapError Failure.engine)

/-- What does not need the connection. -/
def ofExcept {α : Type} (e : Except Failure α) : Action α := ExceptT.mk (pure e)

/-- What may be refused before it reaches the database. -/
def ofRequest {α : Type} (e : Except Error α) : Action α := ofExcept (e.mapError Failure.schema)

/-- Runs a query in the transaction that is open, or else by itself. -/
def query (q : Query) : Action ResultSet := ofWork (Work.query q)

/-- Runs a query in a transaction of its own. -/
def execute (q : Query) : Action ResultSet := ofWork (Work.execute q)

/-- Runs a batch. -/
def batch (sql : String) : Action Unit := ofWork (Work.batch sql)

/-- Runs a batch of which nothing is reported if it fails. -/
def plainBatch (sql : String) : Action Unit := ofWork (Work.plainBatch sql)

/-- The bounds of a transaction of several actions. -/
def bounds : Bounds Failure Connection where
  begin := ofWork (transactionBounds none).begin
  commit := ofWork (transactionBounds none).commit
  undo := (transactionBounds none).undo

/-- Does an action as a transaction of its own. -/
def transaction {α : Type} (action : Action α) : Action α := bounds.whole action

end Action

end FilterStore
