import FilterStore.Proofs.Engine.Storing
import FilterStore.Proofs.Engine.Transaction

/-!
# Inserting whole rows

Where no trigger waits for insertions and references are not enforced, the insertion of a row that
its table admits is prepared, and it does no more than it says: the row is put behind the others,
and the table of the numbers that were given may change.  All other tables stay as they are
(`Table.Admits.exists_run_query`).
-/

namespace FilterStore.Engine

open Database (AlikeBut numberingName)
open Sql (Column Expr Parsed Refers rowInsertion)

section Insertion

variable {c : Connection} {t : Table} {es : List Expr} (proper : t.Proper)
  (refers : List.Forall₂ Refers (List.range' 1 t.columns.length) es)
  (found : c.database.table? t.name = some t)

include proper refers found

/-- All names of the insertion of a row lead somewhere. -/
theorem checkNames_rowInsertion :
    c.database.checkNames (c.world [] .statement) []
      (rowInsertion t.name (t.columns.map Column.name) es) = .ok () := by
  have width : es.length = t.columns.length := by
    rw [← refers.length_eq, List.length_range']
  have table : c.database.changedTable (c.world [] .statement) t.name = .ok t := by
    unfold Database.changedTable
    rw [found]
  have rows : checkRows (c.world [] .statement) [] [es] = .ok es.length := by
    have even : ([es].any fun row => row.length ≠ ([es].headD []).length) = false := by simp
    have each : [es].forM (checkExprs (c.world [] .statement) [] false) = .ok () := by
      show (checkExprs (c.world [] .statement) [] false es >>= fun _ => pure ()) = _
      rw [checkExprs_refers refers rfl]
      rfl
    unfold checkRows
    simp only [even, each]
    rfl
  have count : checkCount t t.name (some (t.columns.map Column.name)) es.length = .ok () := by
    simp only [checkCount, List.length_map, width, if_true]
  unfold rowInsertion Database.checkNames checkInsertion
  simp only [table, ok_bind, proper.insertedSlots_names, rows, count]

variable (free : c.foreignKeys = false) (unwatched : c.database.Unwatched t.name)

include free unwatched

/-- Nothing but the row is looked at. -/
theorem checkChange_rowInsertion :
    c.checkChange (rowInsertion t.name (t.columns.map Column.name) es) = .ok () := by
  have names := checkNames_rowInsertion proper refers found
  have whole : ∀ inner, c.database.checkWhole (c.world [] .statement) c.foreignKeys inner [] []
      (rowInsertion t.name (t.columns.map Column.name) es) = .ok () := by
    intro inner
    have table : (tableOf (rowInsertion t.name (t.columns.map Column.name) es)).bind
        c.database.table? = some t := found
    have event : eventOf (rowInsertion t.name (t.columns.map Column.name) es) = some .insert := rfl
    unfold Database.checkWhole
    rw [names, free]
    simp only [table, event, unwatched.awaiting_eq_nil, ok_bind]
    split <;> rfl
  unfold Connection.checkChange
  rcases c.database.depth with _ | depth <;> exact whole _

variable {row : Row} (admitted : t.Admits (c.database.uniquenesses t) row)
  (opened : c.transaction.isSome)

include admitted opened

/-- In a transaction the insertion as a whole stores the row, and owes nothing. -/
theorem exists_run_wholeChange : ∃ d ns,
    AlikeBut [numberingName] (c.database.withRow t.name row) d ∧
      (Step.wholeChange row.cells (rowInsertion t.name (t.columns.map Column.name) es)).run c =
        (.ok (), { c with
          database := d, lastInsertId := row.id, changes := 1, owedNow := 0, counted := 1
          numberings := ns }) := by
  obtain ⟨ns, changed⟩ := Table.Admits.exists_run_change (c := Step.atStart c) admitted found free
    unwatched proper refers 999
  let behind : Connection := { c with
    database := c.database.withRow t.name row, lastInsertId := row.id, owedNow := 0, counted := 1
    numberings := ns }
  have settled : Step.settle.run behind = (.ok (), behind) :=
    Step.run_settle_of_opened rfl opened
  obtain ⟨d, recorded, alike⟩ := Step.exists_run_recordNumbers behind
  refine ⟨d, ns, alike, ?_⟩
  have made : (Step.whole (Step.change (Step.follow Step.nestingLimit []) row.cells [] none
      (rowInsertion t.name (t.columns.map Column.name) es))).run c =
      (.ok (), { behind with database := d }) := by
    rw [Step.run_whole]
    simp only [run_bind]
    rw [show (Step.change (Step.follow Step.nestingLimit []) row.cells [] none
      (rowInsertion t.name (t.columns.map Column.name) es)).run (Step.atStart c) =
        (.ok (), behind) from changed]
    simp only [settled, recorded, run_pure]
  unfold Step.wholeChange
  simp only [run_bind, run_tryCatch, made, run_modify]
  rfl

end Insertion

/-- The insertion of a row that is admitted stores it as it is, and nothing else. -/
theorem Table.Admits.exists_run_query {c : Connection} {t : Table} {row : Row}
    (admitted : t.Admits (c.database.uniquenesses t) row) (proper : t.Proper)
    (found : c.database.table? t.name = some t) (free : c.foreignKeys = false)
    (unwatched : c.database.Unwatched t.name) (opened : c.transaction.isSome)
    (writable : c.readOnly = false) (plain : ∀ cell ∈ row.cells, bound cell = cell) :
    ∃ answer d ns, AlikeBut [numberingName] (c.database.withRow t.name row) d ∧
      (Action.query ⟨Replay.insertSql t.name (t.columns.map Column.name), row.cells⟩).run c =
        (.ok answer, { c with
          database := d, lastInsertId := row.id, changes := 1, owedNow := 0, counted := 1
          numberings := ns }) := by
  obtain ⟨es, read, refers⟩ := Sql.exists_parsed_insertSql t.name (t.columns.map Column.name)
    (by simpa using proper.nonempty) proper.name
    (List.forall_mem_map.mpr proper.columnNames)
  rw [List.length_map] at read refers
  obtain ⟨d, ns, alike, changed⟩ :=
    exists_run_wholeChange proper refers found free unwatched admitted opened
  have prepared := prepared_change read
    (checkChange_rowInsertion proper refers found free unwatched)
  have enough : checkParameters row.cells.length t.columns.length = .ok () := by
    rw [admitted.width]
    simp [checkParameters]
  have cells : row.cells.map bound = row.cells := (List.map_congr_left plain).trans (List.map_id _)
  have performed : (Step.perform row.cells
      (.change (rowInsertion t.name (t.columns.map Column.name) es))).run c =
      (do
        Step.checkTarget (rowInsertion t.name (t.columns.map Column.name) es)
        Step.wholeChange row.cells (rowInsertion t.name (t.columns.map Column.name) es)
        pure ([], []) : Step (List String × List (List Cell))).run c := rfl
  rw [run_bind, Step.run_checkTarget, writable, Bool.false_and, if_neg Bool.false_ne_true]
    at performed
  simp only [run_bind, changed, run_pure] at performed
  have asked := run_ofWork
    (Work.query ⟨Replay.insertSql t.name (t.columns.map Column.name), row.cells⟩) c
  rw [Work.run_query] at asked
  simp only [prepared, enough, cells, performed] at asked
  exact ⟨_, d, ns, alike, asked⟩

end FilterStore.Engine
