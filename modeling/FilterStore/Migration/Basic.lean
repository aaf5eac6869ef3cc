import FilterStore.Failure

/-!
# Migrations

Migrations bring a database to the latest schema.  *Init functions* create it from nothing.  *Update
functions* lead to it version by version, and *ready functions* wait until it is there.

Update functions are registered with strictly increasing versions.  A version that is not positive
asks for the one after the latest.

The functions work on databases of any type; what they note goes into the trace of the run.
-/

namespace FilterStore

/-! ## Reports -/

/-- Which functions a run chose. -/
inductive Path
  | init
  | update
  deriving DecidableEq, Repr

/-- What listeners are told. -/
inductive MigrationEvent
  | started (path : Path)
  /-- A version is committed: one of so many, out of all that were pending. -/
  | progress (version : Int64) (applied total : Nat)
  | ready
  | done
  deriving DecidableEq, Repr

/-- What a run did. -/
structure MigrationReport where
  /-- Nothing if the run failed before it chose. -/
  path : Option Path
  /-- The version that was found, if one was. -/
  previous : Option Int64
  /-- The versions the run committed, in order. -/
  applied : List Int64
  /-- The version after the run. -/
  current : Int64
  /-- Whether an unusable version table was dropped. -/
  recovered : Bool
  /-- Whether the run failed and its failure was handled. -/
  halted : Bool
  deriving DecidableEq, Repr

/-- Nothing done yet. -/
def MigrationReport.start : MigrationReport :=
  { path := none, previous := none, applied := [], current := 0
    recovered := false, halted := false }

/-! ## Functions and what is registered -/

/-- What a function leaves behind. -/
structure Outcome (σ ν : Type) where
  database : σ
  notes : List ν
  result : Except Failure Unit

/-- A function that changes the schema.  It is told the version it leads to, if it is to lead to
one. -/
abbrev SchemaFunction (σ ν : Type) := Registry → Option Int64 → σ → Outcome σ ν

/-- A function that waits for the schema. -/
abbrev ReadyFunction (σ ν : Type) := Registry → σ → Outcome σ ν

/-- Migrations and how far they have come. -/
structure Migrations (σ ν : Type) where
  /-- The table that records the versions of the schema. -/
  versionTable : String
  settings : MigrationConfig
  stage : Stage
  /-- Whether they have been run to the end before. -/
  rerunning : Bool
  inits : List (SchemaFunction σ ν)
  /-- The update functions with their versions. -/
  updates : List (Int64 × SchemaFunction σ ν)
  readies : List (ReadyFunction σ ν)
  /-- Those who are told of events, by number. -/
  listeners : List Nat
  /-- Whether someone handles failures. -/
  handled : Bool

namespace Migrations

variable {σ ν : Type}

/-- No functions yet. -/
def empty : Migrations σ ν where
  versionTable := standardVersionTable
  settings := .standard
  stage := .init
  rerunning := false
  inits := []
  updates := []
  readies := []
  listeners := []
  handled := false

/-- Migrations that record their versions in another table. -/
def withVersionTable (m : Migrations σ ν) (table : String) : Except Error (Migrations σ ν) := do
  let table := Text.trim table
  checkIdentifier .table table
  .ok { m with versionTable := table }

/-- The migrations a configuration asks for. -/
def ofConfig (c : Config) : Except Error (Migrations σ ν) := do
  let m ← empty.withVersionTable c.versionTable
  .ok { m with settings := c.migration }

/-- The versions of the update functions. -/
def versions (m : Migrations σ ν) : List Int64 := m.updates.map (·.1)

/-- The greatest version of an update function, or zero. -/
def latest (m : Migrations σ ν) : Int64 := m.versions.getLast?.getD 0

/-! ## Registering functions -/

/-- Fails once the functions have been run. -/
def ensureOpen (m : Migrations σ ν) (kind : FunctionKind) : Except Failure Unit :=
  if m.stage = .init ∧ m.rerunning = false then .ok ()
  else .error (.registrationClosed kind m.stage)

/-- Adds an init function. -/
def addInit (m : Migrations σ ν) (f : SchemaFunction σ ν) : Except Failure (Migrations σ ν) := do
  m.ensureOpen .init
  .ok { m with inits := m.inits ++ [f] }

/-- The version under which an update function is registered. -/
def nextVersion (m : Migrations σ ν) (version : Int64) : Except Failure Int64 :=
  if version ≤ 0 then .ok (m.latest + 1)
  else if version ≤ m.latest then .error (.versionOrder version m.latest)
  else .ok version

/-- Adds an update function, and answers its version. -/
def addUpdate (m : Migrations σ ν) (version : Int64) (f : SchemaFunction σ ν) :
    Except Failure (Int64 × Migrations σ ν) := do
  m.ensureOpen .update
  let version ← m.nextVersion version
  .ok (version, { m with updates := m.updates ++ [(version, f)] })

/-- Adds a ready function. -/
def addReady (m : Migrations σ ν) (f : ReadyFunction σ ν) : Except Failure (Migrations σ ν) := do
  m.ensureOpen .ready
  .ok { m with readies := m.readies ++ [f] }

/-- Adds someone to be told of events. -/
def listen (m : Migrations σ ν) (listener : Nat) : Migrations σ ν :=
  { m with listeners := m.listeners ++ [listener] }

/-- Has failures handled instead of returned. -/
def handleFailures (m : Migrations σ ν) : Migrations σ ν := { m with handled := true }

end Migrations

end FilterStore
