import FilterStore.Proofs.Migration.Course
import FilterStore.Proofs.Migration.VersionTable.Tame

/-!
# The init path

Where nothing is recorded, a run creates the ledger, calls the init functions and records the latest
version, all in one transaction.  If any of that fails, the tables are what they were, provided that
no init function ends the transaction on its own.

A ledger of no use is dropped before that, outside of the transaction.  So when the run fails then,
it is not found again: the tables are what dropping it has left.
-/

namespace FilterStore.Migrations

open Engine (Connection)
open VersionTable (running tame_running)

variable {σ δ ν : Type} {m : Migrations σ ν} {L : Ledger σ} {A : Aspect σ δ} {r : Registry}

/-- The init path is all or nothing. -/
theorem tables_of_runInits_error (hL : L.Lawful A) (hinits : ∀ f ∈ m.inits, A.Within (f r none))
    {p q : Progress σ ν} {e : Failure} (h : (m.runInits L r).run p = (.error e, q)) :
    A.tables q.database = A.tables p.database := by
  obtain ⟨result, database, -⟩ := outcome_of_runInits m L r p
  rw [h] at result database
  rw [database]
  exact (hL.same_of_creation_error hinits result.symm).1

/-- A run on the init path: what is created, and if that succeeds the ready functions. -/
theorem execute_of_missing (hm : m.stage = .init) {s : σ} (h : L.recorded s = .ok .missing) :
    let o := m.creation L r.lock s
    (o.result = .ok () →
      (m.execute L r s).database = (m.readiness r.lock o.database).database ∧
      notesOf (m.execute L r s).trace = o.notes ++ (m.readiness r.lock o.database).notes) ∧
    (o.result ≠ .ok () →
      (m.execute L r s).database = o.database ∧ notesOf (m.execute L r s).trace = o.notes ∧
      ¬(m.execute L r s).Completed) := by
  intro o
  obtain ⟨result, database, notes⟩ := outcome_of_runInits m L r.lock (begun s)
  have path := run_runSchema_missing (m := m) (r := r.lock) (p := begun s) h
  rcases schema : (m.runSchema L r.lock).run (begun s) with ⟨e | ⟨⟩, q⟩
  · rw [← path, schema] at result database notes
    refine ⟨fun created => ?_, fun _ => ?_⟩
    · cases result.trans created
    · obtain ⟨left, -, noted, -, completed⟩ := execute_of_run hm (run_of_schema_error schema)
      exact ⟨left.trans database, noted.trans notes, fun h => by cases completed h⟩
  · rw [← path, schema] at result database notes
    refine ⟨fun _ => ?_, fun failed => absurd result.symm failed⟩
    obtain ⟨p, run, left, -, -, noted⟩ := run_of_schema_ok schema
    obtain ⟨left', -, noted', -⟩ := execute_of_run hm run
    rw [database] at left noted
    rw [notes] at noted
    exact ⟨left'.trans left, noted'.trans noted⟩

/-- A run that fails on the init path leaves the tables as it found them.  Only a ledger of no use
is dropped before that: then the tables are what that has left, which is everything but the ledger
if nothing else has to do with it. -/
theorem tables_of_failed_init (hL : L.Lawful A) (hm : m.stage = .init)
    (hinits : ∀ f ∈ m.inits, A.Within (f r.lock none)) {s : σ}
    (failed : (m.execute L r s).migrations.stage = .execute) :
    (L.recorded s = .ok .missing → A.tables (m.execute L r s).database = A.tables s) ∧
      (L.recorded s = .ok .unusable →
        A.tables (m.execute L r s).database = A.tables (L.drop.run s).2 ∧
        (A.apart (A.tables s) →
          ((L.drop.run s).1 = .ok () →
            A.tables (m.execute L r s).database = A.without (A.tables s)) ∧
          ((L.drop.run s).1 ≠ .ok () →
            A.tables (m.execute L r s).database = A.tables s))) := by
  obtain ⟨e, q, schema, database, -⟩ := exists_error_of_stage hm failed
  rw [database]
  refine ⟨fun missing => ?_, fun unusable => ?_⟩
  · rw [run_runSchema_missing missing] at schema
    exact tables_of_runInits_error hL hinits schema
  · rw [run_runSchema_unusable unusable] at schema
    rcases dropped : L.drop.run s with ⟨e' | ⟨⟩, t⟩
    · simp only [Deed.ofWork, begun, dropped] at schema
      cases schema
      exact ⟨rfl, fun apart =>
        ⟨fun ended => (by cases ended), fun _ => hL.drop_error apart dropped⟩⟩
    · simp only [Deed.ofWork, begun, dropped] at schema
      have same := tables_of_runInits_error hL hinits schema
      exact ⟨same, fun apart =>
        ⟨fun _ => same.trans (hL.drop_ok apart dropped), fun refused => absurd rfl refused⟩⟩

/-- Migrations with a second init function that fails. -/
def halved : Migrations Connection String :=
  { empty with
    inits := [running "CREATE TABLE one (line TEXT)" (.ok ()),
      running "CREATE TABLE two (line TEXT)" (.error .notOpen)] }

theorem within_halved {f : SchemaFunction Connection String} (hf : f ∈ halved.inits)
    (r : Registry) : Connection.aspect.Within (f r none) := by
  simp only [halved, List.mem_cons, List.not_mem_nil, or_false] at hf
  rcases hf with rfl | rfl
  · exact (tame_running (by decide +kernel) (.ok ()) r none).within
  · exact (tame_running (by decide +kernel) (.error .notOpen) r none).within

theorem stage_halved :
    (halved.execute standardLedger (.empty .standard) .blank).migrations.stage = .execute ∧
      (halved.execute standardLedger (.empty .standard) (versioned [])).migrations.stage =
        .execute := by
  decide +kernel

theorem tables_of_halved :
    Connection.aspect.tables (halved.execute standardLedger (.empty .standard) .blank).database =
        Connection.aspect.tables .blank ∧
      Connection.aspect.tables
          (halved.execute standardLedger (.empty .standard) (versioned [])).database =
        Connection.aspect.without (Connection.aspect.tables (versioned [])) := by
  have lawful := standardLedger_lawful
  have within : ∀ f ∈ halved.inits,
      Connection.aspect.Within (f (Registry.empty .standard).lock none) :=
    fun f hf => within_halved hf _
  have missing := tables_of_failed_init (r := .empty .standard) (s := .blank) lawful rfl within
    stage_halved.1
  have unusable := tables_of_failed_init (r := .empty .standard) (s := versioned []) lawful rfl
    within stage_halved.2
  have apart := VersionTable.apart_of_sound (shows_versioned []).sound
  have dropped : (standardLedger.drop.run (versioned [])).1 = .ok () :=
    toOption_eq_some_iff.mp (by decide +kernel)
  constructor
  · exact missing.1 (lawful.recorded shows_blank)
  · exact ((unusable.2 (lawful.recorded (shows_versioned []))).2 apart).1 dropped

/-! ## What a failed run does not bring back -/

/-- A connection to a database with an empty table of versions. -/
def unversioned : Connection :=
  ((Action.batch "CREATE TABLE _dbVersion (version INTEGER)").run .blank).2

/-- Migrations with an init function that runs a batch and then fails. -/
def givingUp (sql : String) : Migrations Connection String :=
  { empty with
    inits := [fun _ _ c =>
      { database := ((Action.batch sql).run c).2, notes := [], result := .error .notOpen }] }

/-- Whether there is a table of versions. -/
def hasLedger (c : Connection) : Bool := (c.database.table? standardVersionTable).isSome

/-- A failed run does not bring back an empty table of versions, and where an init function commits
it leaves one that was not there. -/
theorem not_tables_of_failed_init :
    let lost := (givingUp "").execute standardLedger (.empty .standard) unversioned
    let kept := (givingUp "COMMIT").execute standardLedger (.empty .standard) .blank
    ((standardLedger.recorded unversioned).toOption = some .unusable ∧
        lost.result.toOption = none ∧ hasLedger unversioned ∧ hasLedger lost.database = false) ∧
      (standardLedger.recorded .blank).toOption = some .missing ∧
        kept.result.toOption = none ∧ hasLedger .blank = false ∧ hasLedger kept.database := by
  decide +kernel

end FilterStore.Migrations
