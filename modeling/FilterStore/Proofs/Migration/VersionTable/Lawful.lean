import FilterStore.Proofs.Calendar.Date
import FilterStore.Proofs.Engine.Loyal
import FilterStore.Proofs.Migration.Ledger
import FilterStore.Proofs.Migration.VersionTable.Append
import FilterStore.Proofs.Migration.VersionTable.Query
import FilterStore.Proofs.Migration.VersionTable.Schema
import FilterStore.Proofs.Store.Action

/-!
# The ledger of the engine

The table of versions is a lawful ledger of the engine's databases (`standardLedger_lawful`).  Its
transactions are the engine's own, none of its statements ends one, and what they do to a sound
table is known.
-/

namespace FilterStore

open Engine (Connection Database Loyal)
open Engine.Step (run_begin run_commit run_rollback)

/-- A connection as it is looked at for the table of versions. -/
def Engine.Connection.aspect : Aspect Connection Database where
  tables := Connection.database
  start c := c.transaction.map Engine.Transaction.start
  sound := VersionTable.Sound
  versions := VersionTable.versionsOf
  apart := VersionTable.Apart
  without := VersionTable.without

/-- The ledger of migrations that are not told to keep it elsewhere. -/
def standardLedger : Ledger Connection := VersionTable.ledger standardVersionTable

/-! ## Transactions -/

/-- The engine keeps the laws of transactions. -/
theorem Action.bounds_lawful : Action.bounds.Lawful Connection.aspect where
  begin_ok {c} h := by
    have idle : c.transaction = none := Option.map_eq_none_iff.mp h
    exact ⟨c.begun, run_begin_of_idle idle, rfl, rfl⟩
  begin_error {c d} h := by
    obtain ⟨t, busy, -⟩ := Option.map_eq_some_iff.mp h
    refine ⟨.engine { fault := .nestedTransaction, source := "", sql := none }, c, ?_, rfl, h⟩
    refine (run_control _ _ c).trans ?_
    rw [run_begin, busy]
    rfl
  commit_ok {c c' d} h hc := by
    obtain ⟨t, busy, -⟩ := Option.map_eq_some_iff.mp h
    have ended := (run_control _ _ c).symm.trans hc
    rw [run_commit, busy] at ended
    simp only at ended
    split at ended <;> cases ended
    exact ⟨rfl, rfl⟩
  commit_error {c c' d e} h hc := by
    obtain ⟨t, busy, -⟩ := Option.map_eq_some_iff.mp h
    have refused := (run_control _ _ c).symm.trans hc
    rw [run_commit, busy] at refused
    simp only at refused
    split at refused <;> cases refused
    simp [Aspect.undone, h]
  undo c := by
    have undone : (Action.bounds.undo.run c).2 = ((Engine.Step.control .rollback).run c).2 := rfl
    rw [undone, run_rollback]
    cases hc : c.transaction <;> simp [Connection.aspect, Aspect.undone, hc]

/-- What is loyal to transactions stays within them. -/
theorem within_of_loyal {ν : Type} {w : Action Unit} (h : Loyal w) :
    Connection.aspect.Within (Deed.ofWork w : Deed Connection ν) := by
  intro c d hd
  obtain ⟨t, busy, rfl⟩ := Option.map_eq_some_iff.mp hd
  have result : (Deed.ofWork w c : Outcome Connection ν).result = (w.run c).1 := rfl
  have database : (Deed.ofWork w c : Outcome Connection ν).database = (w.run c).2 := rfl
  rw [result, database]
  rcases h c with same | ⟨⟨e, failed⟩, ended, undone⟩
  · rw [busy] at same
    rcases (w.run c).1 with e | ⟨⟩
    · simp [Aspect.undone, Connection.aspect, same]
    · simp [Connection.aspect, same]
  · rw [failed]
    simp [Aspect.undone, Connection.aspect, ended, undone t busy]

/-! ## Statements -/

namespace VersionTable

theorem loyal_create : Loyal (ledger standardVersionTable).create :=
  Engine.loyal_batch (Engine.textControls_of_single parsed_createSql rfl rfl _)

theorem loyal_append (v : Int64) : Loyal ((ledger standardVersionTable).append v) := by
  refine Engine.loyal_bind (Engine.loyal_ofWork (Engine.loyal_query _ fun p hp => ?_)) fun _ =>
    Engine.loyal_pure ()
  cases hp.symm.trans parsed_insertSql
  rfl

/-- A version that is recorded in a sound table is its last one, if it is above the greatest. -/
theorem shows_of_append {c c' : Connection} {v : Int64} {cs : List Cell}
    (h : Connection.aspect.Shows c (some cs))
    (done : ((ledger standardVersionTable).append v).run c = (.ok (), c'))
    (above : cs = [] ∨ ∃ n, greatest cs = .integer n ∧ n < v) :
    Connection.aspect.Shows c' (some (cs ++ [.integer v])) := by
  obtain ⟨sound, versions⟩ := h
  obtain ⟨t, found, rfl⟩ := exists_of_versionsOf versions
  obtain ⟨-, -, numbers⟩ := sound.table t found
  obtain ⟨x, -, database⟩ := (sound.alone found).exists_of_append done
  have below : ∀ r ∈ t.rows, r.id < v := by
    rw [versionsIn_eq numbers] at above
    intro r hr
    rcases above with none | ⟨n, greatest, less⟩
    · have empty := List.map_eq_nil_iff.mp (List.map_eq_nil_iff.mp none)
      rw [empty] at hr
      cases hr
    · exact Int64.lt_of_le_of_lt (le_greatest greatest r.id (List.mem_map_of_mem hr)) less
  constructor
  · show Sound c'.database
    rw [database]
    exact sound_withRow sound found rfl
  · show versionsOf c'.database = _
    rw [database]
    exact versionsOf_withRow found rfl below

end VersionTable

/-- The engine's table of versions is a lawful ledger. -/
theorem standardLedger_lawful : standardLedger.Lawful Connection.aspect := by
  unfold standardLedger
  constructor
  case bounds => exact Action.bounds_lawful
  case recorded =>
    rintro c x ⟨sound, rfl⟩
    exact VersionTable.recorded_eq sound
  case create_within => exact @within_of_loyal Empty _ VersionTable.loyal_create
  case create_ok =>
    rintro c c' x ⟨sound, rfl⟩ done
    obtain ⟨sound', versions⟩ := VersionTable.sound_of_create sound done
    exact ⟨sound', versions⟩
  case append_within => exact fun v => within_of_loyal (VersionTable.loyal_append v)
  case append_ok => exact VersionTable.shows_of_append
  case drop_ok => exact fun apart done => apart.database_of_drop_ok done
  case drop_error => exact fun apart failed => apart.database_of_drop_error failed

/-! ## Where runs begin -/

/-- A connection to an empty database. -/
def Engine.Connection.blank : Connection :=
  .ofDatabase .empty .epoch

theorem shows_blank : Connection.aspect.Shows .blank none := by
  refine ⟨?_, rfl⟩
  constructor
  case permanent => exact fun o ho => by cases ho
  case unreferenced => exact fun t ht => by cases ht
  case view => rfl
  case triggers => rfl
  case indexes => rfl
  case table => exact fun t ht => by cases ht

/-- A connection to a database in which there is nothing but some versions. -/
def versioned (vs : List Int64) : Connection :=
  { Connection.blank with
    database := ⟨[.table { VersionTable.created with
      rows := vs.map fun v => VersionTable.versionRow v (.integer 0) }], []⟩ }

theorem shows_versioned (vs : List Int64) :
    Connection.aspect.Shows (versioned vs) (some (vs.map .integer)) := by
  have found : (versioned vs).database.table? standardVersionTable =
      some { VersionTable.created with
        rows := vs.map fun v => VersionTable.versionRow v (.integer 0) } :=
    List.find?_cons_of_pos (Text.sameName_refl _)
  have rows : ∀ row ∈ vs.map fun v => VersionTable.versionRow v (.integer 0),
      row.cells.head? = some (.integer row.id) := List.forall_mem_map.mpr fun _ _ => rfl
  constructor
  · constructor
    case permanent => exact fun o ho => by cases ho
    case unreferenced =>
      intro t ht
      obtain rfl := List.mem_singleton.mp ht
      exact fun r hr => by cases hr
    case view => rfl
    case triggers => rfl
    case indexes => rfl
    case table =>
      intro t ht
      cases found.symm.trans ht
      exact ⟨rfl, rfl, rows⟩
  · refine (VersionTable.versionsOf_of_some found).trans ?_
    rw [VersionTable.versionsIn_eq rows, List.map_map, List.map_map]
    rfl

end FilterStore
