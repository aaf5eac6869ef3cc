import FilterStore.Dump.Restore
import FilterStore.Migration.Context
import FilterStore.Migration.VersionTable
import FilterStore.Store.Session

/-!
# Stores

A store is a database with its schema, its migrations and its hooks.  The database is opened when
it is first needed.  Once it has been closed, nothing works until it is opened again; what opening
finds is a part of the store.
-/

namespace FilterStore

open Engine (Connection ResultSet)

/-- Whether the database of a store is open. -/
inductive Link
  /-- It is opened when it is first needed. -/
  | pending
  | opened (c : Connection)
  | closed

/-- A store; `ν` is what the functions of its migrations note. -/
structure Store (ν : Type) where
  config : Config
  /-- What opening finds. -/
  found : Connection
  link : Link
  registry : Registry
  migrations : Migrations Connection ν
  hooks : Hooks

/-- What is done with a store. -/
abbrev StoreAction (ν α : Type) := ExceptT Failure (StateM (Store ν)) α

namespace Store

variable {ν α : Type}

/-- A store that a configuration asks for. -/
def ofConfig (config : Config) (found : Connection) : Except Failure (Store ν) := do
  config.validate.mapError .config
  let migrations ← (Migrations.ofConfig config).mapError .schema
  .ok
    { config, found, link := .pending, registry := .empty config.registryOptions, migrations
      hooks := [] }

/-- Gives a table a hook. -/
def setHook (s : Store ν) (table : String) (hook : Hook) : Store ν :=
  { s with hooks := s.hooks.put table hook }

/-! ## Opening and closing -/

def isOpen (s : Store ν) : Bool :=
  match s.link with
  | .opened _ => true
  | _ => false

/-- The store with its database open, also after it was closed. -/
def opened (s : Store ν) : Store ν :=
  if s.isOpen then s else { s with link := .opened s.found }

/-- The store with its database closed, if it was open. -/
def closed (s : Store ν) : Store ν :=
  match s.link with
  | .opened _ => { s with link := .closed }
  | _ => s

/-- The connection to the database, which is opened if it is needed for the first time. -/
def connection? (s : Store ν) : Option Connection :=
  match s.link with
  | .pending => some s.found
  | .opened c => some c
  | .closed => none

/-- Works on the database. -/
def connected (action : Action α) : StoreAction ν α :=
  ExceptT.mk do
    let s ← get
    match s.connection? with
    | none => pure (.error .notOpen)
    | some c =>
      let (result, c) := action.run c
      set { s with link := .opened c }
      pure result

/-! ## Records -/

/-- A session of its own. -/
def session (s : Store ν) : Session :=
  { registry := s.registry, hooks := s.hooks, inTransaction := false }

/-- Works with a session, each statement on its own. -/
def withSession (work : Session → Action α) : StoreAction ν α := do
  connected (work (← get).session)

/-- Works with a session as a whole: if the work fails nothing is done. -/
def transaction (work : Session → Action α) : StoreAction ν α := do
  connected (Action.transaction (work { (← get).session with inTransaction := true }))

/-- Saves a record, as a whole. -/
def save (table : String) (r : Record) (key : String) : StoreAction ν Saved :=
  transaction fun s => s.save table r key

/-! ## Migrations and dumps -/

/-- Runs migrations on the database. -/
def migrateBy (run : Migrations Connection ν → Ledger Connection → Registry → Connection →
      Migrations.Finished Connection ν) : StoreAction ν MigrationReport :=
  ExceptT.mk do
    let s ← get
    match s.connection? with
    | none => pure (.error .notOpen)
    | some c =>
      let f := run s.migrations (VersionTable.ledger s.migrations.versionTable) s.registry c
      set { s with link := .opened f.database, registry := f.registry, migrations := f.migrations }
      pure f.result

/-- Runs the migrations. -/
def migrate : StoreAction ν MigrationReport := migrateBy Migrations.execute

/-- Runs the migrations again. -/
def reMigrate : StoreAction ν MigrationReport := migrateBy Migrations.reExecute

/-- Dumps the database. -/
def dump : StoreAction ν Document := connected Document.ofDatabase

/-- Restores a dump. -/
def restore (d : Document) : StoreAction ν Document := connected d.restore

end Store

end FilterStore
