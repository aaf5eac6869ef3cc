import FilterStore.Migration.Basic
import FilterStore.Transaction

/-!
# Running migrations

A run first looks at the versions a database records.

* Where nothing is recorded, all init functions run, in one transaction with the record of the
  latest version.
* Where a version is recorded, the update functions above it run in order, each in a transaction of
  its own together with the record of its version.  So what is committed survives a later failure,
  and a later run goes on from there.
* A record that is of no use is dropped, and the database counts as one without.

Then the ready functions run.  A run that fails goes no further, and the migrations stay in the
stage they were in.

Migrations that are done can be run again.  Then nobody is told of events, and the ready functions
do not run, unless the settings ask for it.
-/

namespace FilterStore

/-- What a database records of the versions of its schema. -/
inductive Recorded
  | missing
  /-- There is a record, but no version in it. -/
  | unusable
  | version (v : Int64)
  deriving DecidableEq, Repr

/-- A way to record versions in databases. -/
structure Ledger (σ : Type) where
  recorded : σ → Except Failure Recorded
  /-- Makes room for a record where there is none. -/
  create : ExceptT Failure (StateM σ) Unit
  append : Int64 → ExceptT Failure (StateM σ) Unit
  drop : ExceptT Failure (StateM σ) Unit
  /-- The bounds of a transaction. -/
  bounds : Bounds Failure σ

/-- What is left behind by a run, in order. -/
inductive TraceEntry (ν : Type)
  | event (listener : Nat) (e : MigrationEvent)
  | note (n : ν)
  | handled (f : Failure)

/-- A run under way. -/
structure Progress (σ ν : Type) where
  database : σ
  stage : Stage
  report : MigrationReport
  trace : List (TraceEntry ν)

/-- A step of a run. -/
abbrev Running (σ ν : Type) := ExceptT Failure (StateM (Progress σ ν))

namespace Running

variable {σ ν : Type}

/-- A step that only concerns the database. -/
def ofDatabase {α : Type} (work : ExceptT Failure (StateM σ) α) : Running σ ν α :=
  ExceptT.mk do
    let p ← get
    let (result, database) := work.run p.database
    set { p with database }
    pure result

/-- Calls a function and keeps its notes. -/
def call (f : σ → Outcome σ ν) : Running σ ν Unit :=
  ExceptT.mk do
    let p ← get
    let o := f p.database
    set { p with database := o.database, trace := p.trace ++ o.notes.map TraceEntry.note }
    pure o.result

/-- Makes a step as a transaction. -/
def transaction (ledger : Ledger σ) (step : Running σ ν Unit) : Running σ ν Unit :=
  (ledger.bounds.around Progress.database fun database p => { p with database }).whole step

/-- Changes the report. -/
def report (f : MigrationReport → MigrationReport) : Running σ ν Unit :=
  modify fun p => { p with report := f p.report }

/-- Goes on to a stage. -/
def enter (stage : Stage) : Running σ ν Unit := modify fun p => { p with stage }

end Running

namespace Migrations

variable {σ ν : Type}

open Running (ofDatabase call transaction report enter)

/-- Whether anyone is told of events. -/
def tellsEvents (m : Migrations σ ν) : Bool := !m.rerunning || m.settings.eventsOnRerun

/-- Whether ready functions run. -/
def callsReady (m : Migrations σ ν) : Bool := !m.rerunning || m.settings.readyOnRerun

/-- Tells everyone of an event. -/
def tell (m : Migrations σ ν) (e : MigrationEvent) : Running σ ν Unit :=
  if m.tellsEvents then
    modify fun p => { p with trace := p.trace ++ m.listeners.map fun n => .event n e }
  else pure ()

/-- Creates the latest schema. -/
def runInits (m : Migrations σ ν) (ledger : Ledger σ) (r : Registry) : Running σ ν Unit := do
  report fun x => { x with path := some .init }
  m.tell (.started .init)
  transaction ledger do
    ofDatabase ledger.create
    m.inits.forM fun f => call (f r none)
    ofDatabase (ledger.append m.latest)
  report fun x => { x with current := m.latest }

/-- The update functions above a version. -/
def pending (m : Migrations σ ν) (version : Int64) : List (Int64 × SchemaFunction σ ν) :=
  m.updates.filter fun u => version < u.1

/-- Runs one update function. -/
def runUpdate (m : Migrations σ ν) (ledger : Ledger σ) (r : Registry) (total : Nat)
    (u : Int64 × SchemaFunction σ ν) : Running σ ν Unit := do
  transaction ledger do
    call (u.2 r (some u.1))
    ofDatabase (ledger.append u.1)
  report fun x => { x with applied := x.applied ++ [u.1], current := u.1 }
  m.tell (.progress u.1 (← get).report.applied.length total)

/-- Leads from a version to the latest schema. -/
def runUpdates (m : Migrations σ ν) (ledger : Ledger σ) (r : Registry) (version : Int64) :
    Running σ ν Unit := do
  report fun x => { x with previous := some version, path := some .update, current := version }
  m.tell (.started .update)
  let pending := m.pending version
  pending.forM (m.runUpdate ledger r pending.length)

/-- Brings the schema up to date. -/
def runSchema (m : Migrations σ ν) (ledger : Ledger σ) (r : Registry) : Running σ ν Unit := do
  match ledger.recorded (← get).database with
  | .error failure => throw failure
  | .ok .missing => m.runInits ledger r
  | .ok .unusable =>
    ofDatabase ledger.drop
    report fun x => { x with recovered := true }
    m.runInits ledger r
  | .ok (.version v) => m.runUpdates ledger r v

/-- Runs everything. -/
def run (m : Migrations σ ν) (ledger : Ledger σ) (r : Registry) : Running σ ν Unit := do
  m.runSchema ledger r
  enter .ready
  m.tell .ready
  if m.callsReady then m.readies.forM fun f => call (f r)
  enter .done
  m.tell .done

/-- What a run leaves behind. -/
structure Finished (σ ν : Type) where
  migrations : Migrations σ ν
  registry : Registry
  database : σ
  trace : List (TraceEntry ν)
  result : Except Failure MigrationReport

/-- A run that does not begin. -/
def refused (m : Migrations σ ν) (r : Registry) (database : σ) (f : StateFault) :
    Finished σ ν :=
  { migrations := m, registry := r, database, trace := [], result := .error (.invalidState f) }

/-- Runs the migrations.  The registry is locked. -/
def execute (m : Migrations σ ν) (ledger : Ledger σ) (r : Registry) (database : σ) :
    Finished σ ν :=
  if m.stage ≠ .init then m.refused r database (.alreadyRun m.stage)
  else
    let r := r.lock
    let start : Progress σ ν :=
      { database, stage := .execute, report := .start, trace := [] }
    let (result, p) := (m.run ledger r).run start
    let m := { m with stage := p.stage }
    match result with
    | .ok () =>
      { migrations := m, registry := r, database := p.database, trace := p.trace
        result := .ok p.report }
    | .error failure =>
      if m.handled then
        { migrations := m, registry := r, database := p.database
          trace := p.trace ++ [.handled failure], result := .ok { p.report with halted := true } }
      else
        { migrations := m, registry := r, database := p.database, trace := p.trace
          result := .error failure }

/-- Runs migrations again that are done. -/
def reExecute (m : Migrations σ ν) (ledger : Ledger σ) (r : Registry) (database : σ) :
    Finished σ ν :=
  if m.stage ≠ .done then m.refused r database (.notDone m.stage)
  else execute { m with stage := .init, rerunning := true } ledger r database

end Migrations

end FilterStore
