import FilterStore.Migration.VersionTable
import FilterStore.Proofs.Engine.Execution
import FilterStore.Proofs.Engine.Transaction
import FilterStore.Proofs.Migration.VersionTable.Sound

/-!
# Recording a version

A version is recorded by an insertion.  Where the table of versions is sound, there is little that
an insertion can do: no trigger runs, no reference is touched, and no row is pushed out of the way.
So it is refused, and then nothing is recorded, or it adds one row (`Alone.exists_of_append`).
-/

namespace FilterStore.VersionTable

open Engine
open Sql (Expr Token Parsed)

/-! ## The statement as it is read -/

theorem tokens_insertSql :
    Token.ofText (insertSql standardVersionTable) =
      [⟨.word, "", "INSERT", 0⟩, ⟨.word, " ", "INTO", 7⟩, ⟨.word, " ", standardVersionTable, 12⟩,
        ⟨.symbol, " ", "(", 23⟩, ⟨.word, "", "version", 24⟩, ⟨.symbol, "", ")", 31⟩,
        ⟨.word, " ", "VALUES", 33⟩, ⟨.symbol, " ", "(", 40⟩, ⟨.parameter, "", "?1", 41⟩,
        ⟨.symbol, "", ")", 43⟩, ⟨.finish, "", "", 44⟩] := by
  decide +kernel

/-- The insertion of a version. -/
def insertion : Sql.Change :=
  .insert none standardVersionTable (some ["version"]) (.values [[.parameter 1 41]])

theorem parsed_insertSql :
    Parsed.ofText (insertSql standardVersionTable) = .ok (some ⟨.change insertion, 1, ""⟩) := by
  unfold Parsed.ofText
  rw [tokens_insertSql]
  rfl

/-! ## The table -/

/-- What follows for a table from what it is made of. -/
structure Made (t : Table) : Prop where
  lasting : t.isLasting = false
  rowIdColumn : t.rowIdColumn? = some 0
  rowIdConflict : (t.rowIdKey?.bind Sql.Key.conflict) = none
  valueKeys : t.valueKeys = []
  slots : insertedSlots t standardVersionTable (some ["version"]) = .ok [.rowId]
  columns : t.columns = [versionColumn, appliedColumn]
  references : t.parts.references = []
  checks : t.parts.checks = []

theorem made_of_parts {t : Table} (h : t.parts = ledgerParts) : Made t := by
  obtain ⟨name, parts, text, rest, rows⟩ := t
  cases h
  constructor <;> rfl

/-- The cells of a new row before its number is known: the time is the default's. -/
theorem exists_newCells {t : Table} (h : t.parts = ledgerParts) (w : World) (v : Int64) :
    ∃ x, t.newCells w [(.rowId, .integer v)] = .ok [.null, x] := by
  obtain ⟨name, parts, text, rest, rows⟩ := t
  cases h
  exact ⟨_, rfl⟩

/-- The row of a version. -/
def versionRow (v : Int64) (applied : Cell) : Row := { id := v, cells := [.integer v, applied] }

/-- The table of versions stands by itself in a database. -/
structure Alone (d : Database) (t : Table) : Prop where
  found : d.table? standardVersionTable = some t
  name : t.name = standardVersionTable
  parts : t.parts = ledgerParts
  triggers : d.triggersOf t.name = []
  indexes : d.indexesOf t.name = []
  unreferenced : ∀ event, d.touchedOthers t event = []

theorem Sound.alone {d : Database} {t : Table} (h : Sound d)
    (found : d.table? standardVersionTable = some t) : Alone d t := by
  obtain ⟨name, parts, -⟩ := h.table t found
  constructor
  case found => exact found
  case name => exact name
  case parts => exact parts
  case triggers => exact name ▸ h.triggers
  case indexes => exact name ▸ h.indexes
  case unreferenced =>
    exact fun event => (apart_of_sound h).touchedOthers (name ▸ Text.sameName_refl _) event

/-! ## What may be against a row -/

theorem run_filledCell_version (w : World) (t : Table) (cell : Cell) (c : Connection) :
    (Step.filledCell w none t versionColumn cell).run c = (.ok cell, c) := rfl

theorem run_filledCell_applied (w : World) (t : Table) (cell : Cell) (c : Connection) :
    (Step.filledCell w none t appliedColumn cell).run c =
      if same cell .null then (.error ⟨.notNull t.name "applied", .statement⟩, c)
      else (.ok cell, c) := by
  unfold Step.filledCell
  by_cases null : same cell .null = true
  · simp only [null, appliedColumn, Bool.and_self, if_true]
    rfl
  · simp only [null, appliedColumn, Bool.and_false]
    rfl

/-- A row is taken as it is if it has a time. -/
theorem run_requireCells {t : Table} (h : Made t) (w : World) (v : Int64) (x : Cell)
    (c : Connection) :
    (Step.requireCells w none t (versionRow v x)).run c =
      if same x .null then (.error ⟨.notNull t.name "applied", .statement⟩, c)
      else (.ok (versionRow v x), c) := by
  unfold Step.requireCells versionRow
  simp only [h.columns, List.zip_cons_cons, List.zip_nil_left, List.mapM_cons, List.mapM_nil,
    run_bind, run_filledCell_version, run_filledCell_applied]
  by_cases null : same x .null = true
  · simp only [null, if_true]
  have required : ∀ y ∈ [(versionColumn, Cell.integer v), (appliedColumn, x)],
      (y.1.notNull && same y.2 .null) = false := by
    simp only [List.mem_cons, List.not_mem_nil, or_false, forall_eq_or_imp, forall_eq]
    exact ⟨rfl, by simp [null]⟩
  have checked : (List.forM [(versionColumn, Cell.integer v), (appliedColumn, x)] fun y =>
      if y.1.notNull && same y.2 .null then
        (Step.refuse .abort (.notNull t.name y.1.name) : Step Unit)
      else pure ()).run c = (.ok (), c) :=
    run_forM_of_quiet fun y hy => by
      simp only [required y hy, Bool.false_eq_true, if_false]
      rfl
  simp only [null, Bool.false_eq_true, if_false, run_pure, List.zip_cons_cons, List.zip_nil_left,
    checked]

section Alone

variable {c : Connection} {t : Table}

theorem Alone.run_table (h : Alone c.database t) : (Step.table t.name).run c = (.ok t, c) := by
  unfold Step.table
  simp only [run_bind, run_get, h.name, h.found]
  rfl

theorem Alone.uniquenesses {d : Database} (h : Alone d t) : d.uniquenesses t = [] := by
  unfold Database.uniquenesses
  rw [h.indexes, (made_of_parts h.parts).valueKeys]
  rfl

/-- Nothing is against a row but one of its number. -/
theorem Alone.run_beside (h : Alone c.database t) (w : World) (row : Row) :
    (Step.beside w none t row t.rows).run c =
      if t.rows.any fun r => r.id = row.id then (.error ⟨Step.numberFault t, .statement⟩, c)
      else (.ok t.rows, c) := by
  unfold Step.beside Step.besideNumber
  simp only [run_bind, run_get, h.uniquenesses, (made_of_parts h.parts).rowIdConflict]
  by_cases taken : (t.rows.any fun r => r.id = row.id) = true
  · simp only [taken, if_true]
    rfl
  · simp only [taken]
    rfl

theorem Alone.run_join (h : Alone c.database t) (event : Event) (row : Row) :
    (Step.join event t row).run c = (.ok (), c) := by
  have own : c.database.settledOwn t event = [] := by
    unfold Database.settledOwn Table.touchedOwn Table.referencesFrom
    rw [h.unreferenced, (made_of_parts h.parts).references]
    rfl
  unfold Step.join
  simp only [run_bind, run_get, own, h.unreferenced]
  cases c.foreignKeys <;> rfl

/-! ## Steps of an insertion -/

/-- Where a table has no triggers, nothing follows from a row that is added. -/
theorem run_follow_quiet (depth : Nat) (active : List String) (given : Option Sql.Conflict)
    (time : Sql.TriggerTime) (event : Event) (new : Option Row)
    (h : c.database.triggersOf t.name = []) :
    (Step.follow (depth + 1) active given time event t none new).run c = (.ok (), c) := by
  have waiting : c.database.awaiting active time event t.name = [] := by
    unfold Database.awaiting
    rw [h]
    rfl
  unfold Step.follow
  cases time <;> simp only [run_bind, run_get, waiting] <;> rfl

/-- What storing a version comes to.  It is refused without a time, and if it is there already. -/
def storing (t : Table) (v : Int64) (applied : Cell) (before behind : Connection) :
    Except Halt Unit × Connection :=
  if same applied .null then (.error ⟨.notNull t.name "applied", .statement⟩, before)
  else if t.rows.any fun r => r.id = v then (.error ⟨Step.numberFault t, .statement⟩, before)
  else (.ok (), behind)

/-- A connection with one more version in its table. -/
def behindRow (row : Row) (c : Connection) : Connection :=
  { c with database := withRow row c.database, counted := c.counted + 1 }

theorem Alone.run_storeRow (h : Alone c.database t) (pushedOut : Table → Row → Step Unit)
    (v : Int64) (x : Cell) :
    (Step.storeRow pushedOut .insert none t.name none (versionRow v x)).run c =
      storing t v x c (behindRow (versionRow v x) c) := by
  have made := made_of_parts h.parts
  have checks : (Step.requireChecks (c.world [] .statement) none t (versionRow v x)).run c =
      (.ok (), c) := by
    unfold Step.requireChecks
    rw [made.checks]
    rfl
  have others : (t.rows.filter fun r => decide ((none : Option Row).map Row.id ≠ some r.id)) =
      t.rows := List.filter_eq_self.mpr fun _ _ => rfl
  have going : (t.rows.filter fun r => !t.rows.any fun s => s.id = r.id) = [] :=
    List.filter_eq_nil_iff.mpr fun r hr => by
      simp only [Bool.not_eq_true, Bool.not_eq_false', List.any_eq_true, decide_eq_true_eq]
      exact ⟨r, hr, rfl⟩
  have absent : ∀ f : Row → Step Unit, ((none : Option Row).forM f).run c = (.ok (), c) :=
    fun _ => rfl
  unfold Step.storeRow storing
  simp only [run_bind, h.run_table, Step.run_world, run_requireCells made]
  by_cases null : same x .null = true
  · simp only [null, if_true]
  simp only [null, Bool.false_eq_true, if_false, checks, others, h.run_beside]
  have number : (versionRow v x).id = v := rfl
  by_cases taken : (t.rows.any fun r => r.id = v) = true
  · simp only [number, taken, if_true]
  simp only [number, taken, Bool.false_eq_true, if_false, going, run_forM_nil, absent, h.run_table,
    h.run_join]
  rw [h.name]
  rfl

theorem Alone.exists_run_insertOne (h : Alone c.database t) (depth : Nat) (v : Int64) :
    ∃ x, (Step.insertOne (Step.follow (depth + 1) []) none t [(.rowId, .integer v)]).run c =
      storing t v x c { behindRow (versionRow v x) c with lastInsertId := v } := by
  have made := made_of_parts h.parts
  obtain ⟨x, cells⟩ := exists_newCells h.parts (c.world [] .statement) v
  have number : givenNumber [(.rowId, .integer v)] = .ok (some v) := rfl
  have numbered : ∀ n, t.numberedRow n [.null, x] = versionRow n x := fun n => by
    unfold Table.numberedRow
    rw [made.rowIdColumn]
    rfl
  have untold : (Step.noteNumber t v).run c = (.ok (), c) := by
    unfold Step.noteNumber
    rw [made.lasting]
    rfl
  have followed : (behindRow (versionRow v x) c).database.triggersOf t.name = [] :=
    (Database.triggersOf_modifyTable ..).trans h.triggers
  refine ⟨x, ?_⟩
  unfold Step.insertOne
  simp only [run_bind, Step.run_ofExcept, Step.run_world, number, cells, mapError_ok, numbered,
    run_follow_quiet depth [] none _ _ _ h.triggers, h.run_table, run_pure, untold, h.run_storeRow,
    storing]
  by_cases null : same x .null = true
  · simp only [null, if_true]
  by_cases taken : (t.rows.any fun r => r.id = v) = true
  · simp only [null, taken, if_true, Bool.false_eq_true, if_false]
  simp only [null, taken, Bool.false_eq_true, if_false, run_modify]
  exact run_follow_quiet depth [] none _ _ _ followed

/-- A version that is refused is not passed over. -/
theorem leave_storing {v : Int64} {x : Cell} {behind : Connection} {s : Step Unit}
    (h : s.run c = storing t v x c behind) :
    (Step.leavable s).run c = storing t v x c behind := by
  have fault : Step.numberFault t ≠ .rowIgnored := by
    unfold Step.numberFault
    split <;> exact fun h => by cases h
  unfold Step.leavable
  rw [run_tryCatch, h]
  unfold storing
  by_cases null : same x .null = true
  · simp only [null, if_true]
    rfl
  by_cases taken : (t.rows.any fun r => r.id = v) = true
  · simp only [null, taken, if_true, Bool.false_eq_true, if_false, fault]
    rfl
  · simp only [null, taken, Bool.false_eq_true, if_false]

theorem Alone.exists_run_change (h : Alone c.database t) (depth : Nat) (v : Int64) :
    ∃ x, (Step.change (Step.follow (depth + 1) []) [.integer v] [] none insertion).run c =
      storing t v x c { behindRow (versionRow v x) c with lastInsertId := v } := by
  have made := made_of_parts h.parts
  obtain ⟨x, inserted⟩ := h.exists_run_insertOne depth v
  have table : (Step.table standardVersionTable).run c = (.ok t, c) := h.name ▸ h.run_table
  have rows : insertedRows (c.world [.integer v] .statement) [] (.values [[.parameter 1 41]]) =
      .ok [[.integer v]] := rfl
  refine ⟨x, ?_⟩
  unfold insertion Step.change
  simp only [run_bind, table, made.lasting, made.slots, Bool.false_eq_true, if_false, rows,
    Step.run_ofExcept, Step.run_world, mapError_ok, run_forM_single]
  exact leave_storing inserted

end Alone

/-! ## The insertion as a whole -/

theorem of_storing_ok {t : Table} {v : Int64} {x : Cell} {before behind c : Connection}
    (h : storing t v x before behind = (.ok (), c)) : (∀ r ∈ t.rows, r.id ≠ v) ∧ c = behind := by
  unfold storing at h
  by_cases null : same x .null = true
  · simp only [null, if_true] at h
    cases h
  by_cases taken : (t.rows.any fun r => r.id = v) = true
  · simp only [null, taken, if_true, Bool.false_eq_true, if_false] at h
    cases h
  simp only [null, taken, Bool.false_eq_true, if_false] at h
  cases h
  exact ⟨fun r hr same => taken (List.any_eq_true.mpr ⟨r, hr, decide_eq_true same⟩), rfl⟩

/-- Recording a version that succeeds has made the insertion. -/
theorem perform_of_append_ok {c c' : Connection} {v : Int64}
    (h : ((ledger standardVersionTable).append v).run c = (.ok (), c')) :
    ∃ a, (Step.perform [.integer v] (.change insertion)).run c = (.ok a, c') := by
  have asked : (ledger standardVersionTable).append v = (do
      let _ ← Action.query ⟨insertSql standardVersionTable, [.integer v]⟩) := rfl
  rw [asked, run_bind, Action.query, run_ofWork, Work.run_query] at h
  rcases prepared : Work.prepared c (insertSql standardVersionTable) with e | (_ | parsed)
  · simp only [prepared] at h
    cases h
  · simp only [prepared] at h
    cases h
  obtain rfl : parsed = ⟨.change insertion, 1, ""⟩ := by
    have read := (Work.parsed_of_prepared prepared).symm.trans parsed_insertSql
    cases read
    rfl
  have enough : checkParameters [Cell.integer v].length 1 = .ok () := rfl
  have given : [Cell.integer v].map bound = [.integer v] := rfl
  simp only [prepared, enough, given] at h
  rcases performed : (Step.perform [.integer v] (.change insertion)).run c with ⟨e | a, c''⟩
  · simp only [performed] at h
    cases h
  · simp only [performed] at h
    cases h
    exact ⟨a, rfl⟩

/-- A version that is recorded adds one row to the table.  It was not there before. -/
theorem Alone.exists_of_append {c c' : Connection} {t : Table} (h : Alone c.database t) {v : Int64}
    (done : ((ledger standardVersionTable).append v).run c = (.ok (), c')) :
    ∃ x, (∀ r ∈ t.rows, r.id ≠ v) ∧ c'.database = withRow (versionRow v x) c.database := by
  obtain ⟨a, performed⟩ := perform_of_append_ok done
  have made := Step.run_wholeChange_of_perform_ok rfl performed
  obtain ⟨c₁, changed, database⟩ := Step.exists_database_of_wholeChange_ok made
  obtain ⟨x, run⟩ := Alone.exists_run_change (c := Step.atStart c) h (Step.nestingLimit - 1) v
  have limit : Step.nestingLimit - 1 + 1 = Step.nestingLimit := rfl
  rw [limit, changed] at run
  obtain ⟨fresh, rfl⟩ := of_storing_ok run.symm
  exact ⟨x, fresh, database rfl⟩

end FilterStore.VersionTable
