import FilterStore.Engine.Database
import FilterStore.Engine.Reference
import FilterStore.Engine.Resolution

/-!
# Connections

A connection is an open database with what is remembered between its statements.  A step of a
statement may change the connection and may stop the statement; what it did before is not undone by
itself, but the stop says how much is to be undone.

While references are broken, the connection owes rows to them.  What is owed now is to be settled
before the statement ends, what is owed later before the transaction ends.
-/

namespace FilterStore.Engine

open Sql (Fault Undo)
open Text (sameName)

/-! ## Views

A view is a query with a name, and is read as if it were a table: its columns are those of the
query, its rows are the rows the query has now.  Nothing of it is kept, so a view whose query names
something that is gone is an error only when it is read.

Views may be queries of views.  Each step inwards leaves a view behind that may not come again, so
there are at most as many steps as there are views; a view that does come again is circular.
-/

/-- A name that is not among those taken: the name itself, or the name with the first count that
helps. -/
def freshName (taken : List String) (name : String) : String :=
  let candidates := name :: (List.range taken.length).map fun n => name ++ ":" ++ toString (n + 1)
  (candidates.find? fun c => !taken.any (sameName c)).getD name

/-- Names made different from one another; the first of equal names keeps it. -/
def distinctNames (names : List String) : List String :=
  names.foldl (fun taken name => taken ++ [freshName taken name]) []

/-- The names of a view's columns: those it gives, or the headings of its query. -/
def View.columnNames (v : View) (w : World) : Except Fault (List String) :=
  let found := headings w v.query
  match v.columns with
  | none => .ok (distinctNames found)
  | some names =>
    if names.length = found.length then .ok (distinctNames names)
    else .error (.viewWidth v.name names.length found.length)

/-- A view as expressions see it, given what its own query sees. -/
def View.relation (v : View) (w : World) : Except Fault Relation := do
  checkSelect w [] v.query
  let names ← v.columnNames w
  let rows ← queryRows w [] false v.query
  .ok {
    columns := columnShapes w v.query names
    rowIdColumn := none
    numbered := false
    sought := []
    rows := rows.zipIdx.map fun (cells, i) => { id := Int64.ofNat (i + 1), cells } }

namespace Database

/-- The table or the view of a name, where views may be read to a depth.  `outer` are the views that
are being read. -/
def relationWithin (d : Database) (now : Calendar.Instant) :
    Nat → List String → String → Except Fault Relation
  | depth, outer, name =>
    match d.tableRelation? name, d.view? name with
    | some r, _ => .ok r
    | none, none => .error (.noSuchTable name false)
    | none, some v =>
      match depth with
      | 0 => .error (.circularView v.name)
      | depth + 1 =>
        if outer.any (sameName v.name) then .error (.circularView v.name)
        else
          let inner : World :=
            { relation := d.relationWithin now depth (v.name :: outer), now, parameters := []
              setting := .statement }
          (v.relation inner).mapError Fault.inDefinition

/-- The table or the view of a name. -/
def relation (d : Database) (now : Calendar.Instant) (name : String) : Except Fault Relation :=
  d.relationWithin now (d.views.length + 1) [] name

end Database

/-! ## Connections -/

/-- A place in a transaction that can be gone back to. -/
structure Savepoint where
  name : String
  database : Database
  owedLater : Int

/-- A transaction that is open. -/
structure Transaction where
  /-- What it was begun with. -/
  start : Database
  /-- Whether a mark began it, so that it ends when that mark is released. -/
  byMark : Bool
  /-- Its marks, the last one first. -/
  marks : List Savepoint

/-- What a statement knows of the numbers that a table has given to rows. -/
structure Numbering where
  table : String
  /-- What was recorded before the statement. -/
  recorded : Option Int64
  greatest : Int64

/-- An open database. -/
structure Connection where
  database : Database
  /-- Whether the database may be read only. -/
  readOnly : Bool
  /-- Whether references between tables are enforced. -/
  foreignKeys : Bool
  /-- The number of the row that was inserted last. -/
  lastInsertId : Int64
  /-- How many rows the last insertion, update or deletion changed. -/
  changes : Nat
  now : Calendar.Instant
  transaction : Option Transaction
  owedNow : Int
  owedLater : Int
  /-- How many rows the statement has changed so far. -/
  counted : Nat
  /-- The tables to which the statement may add rows, if they do not give numbers twice. -/
  numberings : List Numbering

namespace Connection

/-- A connection to a database on which nothing has happened yet. -/
def ofDatabase (d : Database) (now : Calendar.Instant) : Connection where
  database := d
  readOnly := false
  foreignKeys := true
  lastInsertId := 0
  changes := 0
  now
  transaction := none
  owedNow := 0
  owedLater := 0
  counted := 0
  numberings := []

/-- What expressions see. -/
def world (c : Connection) (parameters : List Cell) (setting : Setting) : World where
  relation := c.database.relation c.now
  now := c.now
  parameters
  setting

/-- What is left of the database when the connection is closed. -/
def left (c : Connection) : Database :=
  ((c.transaction.map Transaction.start).getD c.database).kept

end Connection

/-- Why a statement stops, and how much of what was done is undone. -/
structure Halt where
  fault : Fault
  undo : Undo

/-- The stop that a fault leads to by itself. -/
def Halt.ofFault (f : Fault) : Halt :=
  match f with
  | .raised undo _ => ⟨f, undo⟩
  | f => ⟨f, .statement⟩

/-- A step of a statement. -/
abbrev Step := ExceptT Halt (StateM Connection)

namespace Step

/-- Stops with a fault. -/
def stop {α : Type} (f : Fault) : Step α := throw (.ofFault f)

/-- A computation that only reads. -/
def ofExcept {α : Type} (e : Except Fault α) : Step α := ExceptT.mk (pure (e.mapError .ofFault))

/-- What expressions see now. -/
def world (parameters : List Cell) : Step World := do
  pure ((← get).world parameters .statement)

/-- The table of a name as it is now. -/
def table (name : String) : Step Table := do
  match (← get).database.table? name with
  | some t => pure t
  | none => stop (.noSuchTable name false)

/-- Changes a table. -/
def modifyTable (name : String) (f : Table → Table) : Step Unit :=
  modify fun c => { c with database := c.database.modifyTable name f }

/-- Counts a row as changed. -/
def count : Step Unit := modify fun c => { c with counted := c.counted + 1 }

end Step

end FilterStore.Engine
