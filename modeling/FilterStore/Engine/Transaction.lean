import FilterStore.Engine.Change

/-!
# Statements and transactions as a whole

A statement that is stopped leaves nothing behind, unless the stop says otherwise: what was done to
other rows before can stay, or the whole transaction can be undone, which ends it.  A statement may
not end while it owes rows to references.  Outside of a transaction it is one by itself, so it may
not owe them later either.

In a transaction places can be marked.  What was done behind a mark can be undone, and the mark
stays; or the mark is forgotten, and those behind it.  If it was the mark that began the
transaction, that is the end of the transaction.
-/

namespace FilterStore.Engine

open Sql (Change Control)
open Text (sameName)

namespace Step

/-- Goes back to the database that a connection had. -/
def goBack (before : Connection) : Step Unit :=
  modify fun c => { c with database := before.database, owedLater := before.owedLater }

/-- Forgets the transaction. -/
def leaveTransaction : Step Unit := modify fun c => { c with transaction := none, owedLater := 0 }

/-- Undoes the transaction, or a statement outside of one. -/
def undoTransaction (before : Connection) : Step Unit := do
  goBack before
  match before.transaction with
  | some t => modify fun c => { c with database := t.start }
  | none => pure ()
  leaveTransaction

/-- Settles what a statement owes. -/
def settle : Step Unit := do
  requireSettled false
  if (← get).transaction.isNone then
    requireSettled true
    leaveTransaction

/-- Undoes as much as a stop says. -/
def recover {α : Type} (before : Connection) (h : Halt) : Step α := do
  match h.undo with
  | .nothing =>
    tryCatch settle fun unsettled => do
      goBack before
      throw unsettled
  | .statement => goBack before
  | .transaction => undoTransaction before
  throw h

/-- Makes a statement as a whole. -/
def whole {α : Type} (statement : Step α) : Step α := do
  let before ← get
  set { before with owedNow := 0, counted := 0, numberings := [] }
  tryCatch
    (do
      let a ← statement
      settle
      recordNumbers
      pure a)
    (recover before)

/-- Makes a change as a whole, and remembers how many rows it changed. -/
def wholeChange (parameters : List Cell) (c : Change) : Step Unit := do
  tryCatch (whole (change (follow nestingLimit []) parameters [] none c)) fun h => do
    let stays := decide (h.undo = .nothing)
    modify fun c => { c with changes := if stays then c.counted else 0 }
    throw h
  modify fun c => { c with changes := c.counted }

/-! ## Transactions -/

/-- The transaction that is open, which is to be ended in a way. -/
def openTransaction (ending : String) : Step Transaction := do
  match (← get).transaction with
  | some t => pure t
  | none => stop (.noTransaction ending)

/-- Ends a transaction; what it did stays. -/
def commit : Step Unit := do
  requireSettled true
  leaveTransaction

/-- Marks what the database is now. -/
def mark (name : String) : Step Unit := do
  let c ← get
  let t := c.transaction.getD { start := c.database, byMark := true, marks := [] }
  let place : Savepoint := { name, database := c.database, owedLater := c.owedLater }
  set { c with transaction := some { t with marks := place :: t.marks } }

/-- A transaction with the marks from one of a name on, the last one of that name first. -/
def marksFrom (name : String) : Step (Transaction × List Savepoint) := do
  match (← get).transaction with
  | some t =>
    match t.marks.dropWhile fun m => !sameName m.name name with
    | [] => stop (.noSuchMark name)
    | marks => pure (t, marks)
  | none => stop (.noSuchMark name)

/-- Begins or ends a transaction, or part of one. -/
def control : Control → Step Unit
  | .begin => do
    let c ← get
    if c.transaction.isSome then stop .nestedTransaction
    set { c with transaction := some { start := c.database, byMark := false, marks := [] } }
  | .commit => do
    let _ ← openTransaction "commit"
    commit
  | .rollback => do
    let _ ← openTransaction "rollback"
    undoTransaction (← get)
  | .mark name => mark name
  | .release name => do
    let (t, marks) ← marksFrom name
    let others := marks.drop 1
    if t.byMark && others.isEmpty then commit
    else modify fun c => { c with transaction := some { t with marks := others } }
  | .rollbackTo name => do
    let (t, marks) ← marksFrom name
    modify fun c => { c with transaction := some { t with marks } }
    match marks with
    | place :: _ =>
      modify fun c => { c with database := place.database, owedLater := place.owedLater }
    | [] => pure ()

end Step

end FilterStore.Engine
