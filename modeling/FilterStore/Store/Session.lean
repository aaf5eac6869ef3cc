import FilterStore.Query.Statement
import FilterStore.Store.Action

/-!
# Sessions

A session reads and writes records by the schema of a registry.  What is not in the schema is
refused before it reaches the database.

Records pass through the *hook* of their table, if it has one: before a record is written, which the
hook may refuse, and after it is read.

To save a record is to update the row with the record's key, or to insert the record if it has no
key or there is no such row.
-/

namespace FilterStore

open Engine (Connection ResultSet)
open Text (lower trim)

/-- What records of a table pass through. -/
structure Hook where
  beforeWrite : Record → Except Failure Record
  afterRead : Record → Record

/-- Hooks by the names of their tables. -/
abbrev Hooks := List (String × Hook)

namespace Hooks

/-- A table's name as the hooks know it. -/
def key (table : String) : String := lower (trim table)

/-- The hook of a table. -/
def find? (hooks : Hooks) (table : String) : Option Hook := hooks.lookup (key table)

/-- Gives a table a hook, in place of the one it has. -/
def put (hooks : Hooks) (table : String) (hook : Hook) : Hooks := (key table, hook) :: hooks

end Hooks

/-- What a session works with besides a connection. -/
structure Session where
  registry : Registry
  hooks : Hooks
  inTransaction : Bool

/-- What became of a saved record. -/
inductive Saved
  | inserted (id : Int64)
  | updated (rows : Nat)
  deriving DecidableEq, Repr

namespace Session

/-- The records of an answer. -/
def records (s : Session) (table : String) (answer : ResultSet) : List Record :=
  answer.rows.map (s.registry.decodeRow table answer.columns)

/-- A record as it is read. -/
def read (s : Session) (table : String) (r : Record) : Record :=
  match s.hooks.find? table with
  | some hook => hook.afterRead r
  | none => r

/-- A record as it is written. -/
def written (s : Session) (table : String) (r : Record) : Except Failure Record :=
  match s.hooks.find? table with
  | some hook => hook.beforeWrite r
  | none => .ok r

/-- Runs a query, in a transaction of its own unless the session is in one. -/
def execute (s : Session) (q : Query) : Action ResultSet :=
  if s.inTransaction then Action.query q else Action.execute q

/-- The first value of the answer to a query. -/
def oneValue (s : Session) (q : Query) : Action Cell := do
  let answer ← s.execute q
  pure answer.first

/-- The records a request asks for. -/
def search (s : Session) (table : String) (spec : Spec) : Action (List Record) := do
  let q ← Action.ofRequest (s.registry.compileSelect table spec)
  let answer ← s.execute q
  pure ((s.records table answer).map (s.read table))

/-- A count that was asked for. -/
def countOf : Cell → Nat
  | .integer n => n.toNatClampNeg
  | _ => 0

/-- How many records a request asks for. -/
def count (s : Session) (table : String) (spec : Spec) : Action Nat := do
  let q ← Action.ofRequest (s.registry.compileCount table spec)
  let n ← s.oneValue q
  pure (countOf n)

/-- Deletes the records a request asks for, and counts them. -/
def delete (s : Session) (table : String) (spec : Spec) : Action Nat := do
  let q ← Action.ofRequest (s.registry.compileDelete table spec)
  let answer ← s.execute q
  pure answer.affected

/-- Inserts a record, and answers the number of its row. -/
def insert (s : Session) (table : String) (r : Record) : Action Int64 := do
  let r ← Action.ofExcept (s.written table r)
  let q ← Action.ofRequest (s.registry.compileInsert table r)
  let _ ← s.execute q
  pure (← get).lastInsertId

/-- Sets the fields of a record in the records a request asks for, and counts them. -/
def update (s : Session) (table : String) (r : Record) (spec : Spec) : Action Nat := do
  let r ← Action.ofExcept (s.written table r)
  let q ← Action.ofRequest (s.registry.compileUpdate table r spec)
  let answer ← s.execute q
  pure answer.affected

/-- The request for the records with a value in a column. -/
def keySpec (key : String) (value : Value) : Spec :=
  { Spec.empty with
    filter := [.column
      { column := key, operator := "=", operand := some (.value value), connective := none }] }

/-- The value a record is saved under; null is none. -/
def keyValue? (r : Record) (key : String) : Option Value :=
  match r.get? key with
  | some .null => none
  | value => value

/-- Updates the row with a record's key, and counts it.  If the record has nothing but its key, only
whether there is such a row matters. -/
def updateByKey (s : Session) (table : String) (r : Record) (key : String) (value : Value) :
    Action (Option Nat) := do
  let spec := keySpec key value
  let changes := r.erase key
  if changes.isEmpty then
    let n ← s.count table spec
    pure (if n = 0 then none else some 0)
  else
    let n ← s.update table changes spec
    pure (if n = 0 then none else some n)

/-- Saves a record under the value of a column. -/
def save (s : Session) (table : String) (r : Record) (key : String) : Action Saved := do
  let key := trim key
  Action.ofRequest (s.registry.checkColumns table [key])
  let updated ←
    match keyValue? r key with
    | some value => s.updateByKey table r key value
    | none => pure none
  match updated with
  | some n => pure (.updated n)
  | none =>
    let id ← s.insert table r
    pure (.inserted id)

/-- The first record with a value in a column. -/
def find (s : Session) (table key : String) (value : Value) : Action (Option Record) := do
  let records ← s.search table { keySpec key value with limit := some (.count 1) }
  pure records.head?

end Session

end FilterStore
