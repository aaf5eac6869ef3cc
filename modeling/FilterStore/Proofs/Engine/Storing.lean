import FilterStore.Proofs.Engine.Database
import FilterStore.Proofs.Engine.Execution
import FilterStore.Proofs.Engine.RowQuery

/-!
# Rows that nothing is against

A table *admits* a row if the row can be put behind the rows that are there: it has a cell for every
column, each as the column stores it, its required cells are there, its conditions hold, its number
is the next one, and what occurs once is not in another row (`Table.Admits`).

Inserting such a row stores it as it is (`Table.Admits.exists_run_insertOne`).  The rule for rows
that may not be stored is never asked, and where references are not enforced and no trigger waits
for an insertion, nothing else happens.
-/

namespace FilterStore.Engine

open Sql (Column Conflict Expr Refers)
open Text (sameName)

/-- Nothing is against a row that is put behind the rows of a table, whatever else an expression
may see.  What occurs once in the table is given. -/
structure Table.Admits (t : Table) (us : List Uniqueness) (row : Row) : Prop where
  width : row.cells.length = t.columns.length
  /-- The cells are as their columns store them. -/
  leaning : ∀ p ∈ t.columns.zip row.cells, stored p.1.affinity p.2 = p.2
  present : ∀ p ∈ t.columns.zip row.cells, p.1.notNull = true → same p.2 .null = false
  /-- The number of the row is in the column for it, if there is one. -/
  numbered : ∀ i, t.rowIdColumn? = some i → row.cells[i]? = some (.integer row.id)
  /-- Otherwise it is the next one. -/
  next : t.rowIdColumn? = none → t.greatestId ≠ Int64.maxValue ∧ row.id = t.greatestId + 1
  above : ∀ r ∈ t.rows, r.id < row.id
  /-- The default of the column of the number is computed, though it is not taken. -/
  default : ∀ i column, t.rowIdColumn? = some i → t.columns[i]? = some column →
    ∀ w, ∃ cell, Table.defaultCell w column = .ok cell
  holds : ∀ w, ∀ check ∈ t.parts.checks, isBroken w [t.frame row] check.expr = .ok false
  alone : ∀ w, ∀ u ∈ us, u.rival? w t row t.rows = .ok none

/-! ## Cells that are given for columns -/

section Given

variable {p : Slot} {cell : Cell} {cells : List (Slot × Cell)}

theorem firstGiven?_of_mem (mem : (p, cell) ∈ cells) (only : ∀ c, (p, c) ∈ cells → c = cell) :
    firstGiven? p cells = some cell := by
  unfold firstGiven?
  rcases found : cells.find? fun c => c.1 = p with _ | ⟨q, c⟩
  · exact absurd (List.find?_eq_none.mp found _ mem) (by simp)
  · obtain rfl : q = p := by simpa using List.find?_some found
    rw [found]
    exact congrArg some (only c (List.mem_of_find?_eq_some found))

theorem firstGiven?_eq_none (h : ∀ c, (p, c) ∉ cells) : firstGiven? p cells = none := by
  unfold firstGiven?
  rw [Option.map_eq_none_iff]
  refine List.find?_eq_none.mpr fun c hc same => h c.2 ?_
  obtain rfl : c.1 = p := by simpa using same
  exact hc

theorem lastGiven?_of_mem (mem : (p, cell) ∈ cells) (only : ∀ c, (p, c) ∈ cells → c = cell) :
    lastGiven? p cells = some cell :=
  firstGiven?_of_mem (List.mem_reverse.mpr mem) fun c hc => only c (List.mem_reverse.mp hc)

theorem lastGiven?_eq_none (h : ∀ c, (p, c) ∉ cells) : lastGiven? p cells = none :=
  firstGiven?_eq_none fun c hc => h c (List.mem_reverse.mp hc)

end Given

namespace Table

variable (t : Table)

/-- The slot of a place among the columns. -/
def slotAt (i : Nat) : Slot := if t.rowIdColumn? = some i then .rowId else .cell i

theorem mem_zip_slots {p : Slot} {cell : Cell} {cells : List Cell} :
    (p, cell) ∈ t.slots.zip cells ↔
      ∃ i, i < t.columns.length ∧ t.slotAt i = p ∧ cells[i]? = some cell := by
  have slots : ∀ i, t.slots[i]? = some p ↔ i < t.columns.length ∧ t.slotAt i = p := fun i => by
    unfold slots
    rw [List.getElem?_map, Option.map_eq_some_iff]
    simp only [List.getElem?_eq_some_iff, List.length_range, List.getElem_range, slotAt]
    constructor
    · rintro ⟨j, ⟨hi, rfl⟩, slot⟩
      exact ⟨hi, slot⟩
    · rintro ⟨hi, slot⟩
      exact ⟨i, ⟨hi, rfl⟩, slot⟩
  rw [List.mem_iff_getElem?]
  simp only [List.getElem?_zip_eq_some, slots, and_assoc]

variable {t}

theorem slotAt_eq_rowId {i : Nat} : t.slotAt i = .rowId ↔ t.rowIdColumn? = some i := by
  unfold slotAt
  split <;> simp_all

theorem slotAt_eq_cell {i j : Nat} :
    t.slotAt i = .cell j ↔ i = j ∧ t.rowIdColumn? ≠ some i := by
  unfold slotAt
  split <;> simp_all

/-- A key of the numbers of rows comes with their column. -/
theorem isLasting_eq_false (h : t.rowIdColumn? = none) : t.isLasting = false := by
  unfold isLasting
  rcases found : t.rowIdKey? with _ | k
  · rfl
  have key : Sql.namesRows t.columns k = true := List.find?_some found
  unfold Sql.namesRows at key
  split at key
  · rename_i column _ single
    have columns : t.columnIndex? column.name = none := by
      simpa [rowIdColumn?, found, Sql.Key.names, single] using h
    obtain ⟨c, hc, named⟩ := List.any_eq_true.mp key
    rw [Bool.and_eq_true] at named
    have other := List.findIdx?_eq_none_iff.mp columns c hc
    exact absurd (other.symm.trans named.1) Bool.false_ne_true
  · cases key

namespace Proper

variable (h : t.Proper)

include h

theorem columnIndex?_getElem {i : Nat} (hi : i < t.columns.length) :
    t.columnIndex? t.columns[i].name = some i := by
  refine List.findIdx?_eq_some_iff_getElem.mpr ⟨hi, Text.sameName_refl _, fun j hj => ?_⟩
  have apart := List.pairwise_iff_getElem.mp h.distinct j i (hj.trans hi) hi hj
  exact Bool.eq_false_iff.mp apart

/-- The names of all columns lead to the slots of all columns. -/
theorem insertedSlots_names (written : String) :
    insertedSlots t written (some (t.columns.map Column.name)) = .ok t.slots := by
  have length : t.slots.length = t.columns.length := by simp [slots]
  unfold insertedSlots
  refine mapM_of_getElem (by rw [List.length_map, length]) fun i hi hi' => ?_
  rw [List.length_map] at hi
  have found : t.slot? t.columns[i].name = some t.slots[i] := by
    unfold slot?
    rw [h.columnIndex?_getElem hi]
    simp [slots]
  simp only [List.getElem_map, found]

end Proper

end Table

/-! ## The cells of an admitted row -/

namespace Table.Admits

variable {t : Table} {us : List Uniqueness} {row : Row} (h : t.Admits us row)

include h

/-- The number is given if there is a column for it. -/
theorem givenNumber_eq :
    givenNumber (t.slots.zip row.cells) = .ok (t.rowIdColumn?.map fun _ => row.id) := by
  rcases place : t.rowIdColumn? with _ | i
  · have none : lastGiven? .rowId (t.slots.zip row.cells) = none :=
      lastGiven?_eq_none fun c hc => by
        obtain ⟨j, -, slot, -⟩ := t.mem_zip_slots.mp hc
        cases place.symm.trans (slotAt_eq_rowId.mp slot)
    unfold givenNumber
    rw [none]
    rfl
  · have cell := h.numbered i place
    have bound : i < t.columns.length := by
      rw [← h.width]
      exact (List.getElem?_eq_some_iff.mp cell).1
    have given : lastGiven? .rowId (t.slots.zip row.cells) = some (.integer row.id) := by
      refine lastGiven?_of_mem
        (t.mem_zip_slots.mpr ⟨i, bound, slotAt_eq_rowId.mpr place, cell⟩) fun c hc => ?_
      obtain ⟨j, -, slot, other⟩ := t.mem_zip_slots.mp hc
      obtain rfl : i = j := Option.some.inj (place.symm.trans (slotAt_eq_rowId.mp slot))
      exact Option.some.inj (other.symm.trans cell)
    unfold givenNumber
    rw [given]
    rfl

/-- The cell for another column is given as it is. -/
theorem firstGiven?_cell {i : Nat} (hi : i < row.cells.length) :
    firstGiven? (.cell i) (t.slots.zip row.cells) =
      if t.rowIdColumn? = some i then none else some row.cells[i] := by
  split
  case isTrue place =>
    refine firstGiven?_eq_none fun c hc => ?_
    obtain ⟨j, -, slot, -⟩ := t.mem_zip_slots.mp hc
    obtain ⟨rfl, other⟩ := slotAt_eq_cell.mp slot
    exact other place
  case isFalse place =>
    have bound : i < t.columns.length := h.width ▸ hi
    refine firstGiven?_of_mem (t.mem_zip_slots.mpr
      ⟨i, bound, slotAt_eq_cell.mpr ⟨rfl, place⟩, List.getElem?_eq_getElem hi⟩) fun c hc => ?_
    obtain ⟨j, -, slot, cell⟩ := t.mem_zip_slots.mp hc
    obtain ⟨rfl, -⟩ := slotAt_eq_cell.mp slot
    exact (List.getElem?_eq_some_iff.mp cell).2.symm

/-- The cells of a new row are those that are given, but for the place of its number. -/
theorem newCells_eq {values : List Cell} (w : World) (length : values.length = t.columns.length)
    (same : ∀ i (hi : i < values.length) (hc : i < row.cells.length), t.rowIdColumn? ≠ some i →
      values[i] = row.cells[i])
    (filled : ∀ i (hi : i < values.length) (hc : i < t.columns.length), t.rowIdColumn? = some i →
      Table.defaultCell w t.columns[i] = .ok values[i]) :
    t.newCells w (t.slots.zip row.cells) = .ok values := by
  unfold newCells
  refine mapM_of_getElem (by rw [List.length_zipIdx, length]) fun i hi hi' => ?_
  rw [List.length_zipIdx] at hi
  have hc : i < row.cells.length := h.width ▸ hi
  rw [List.getElem_zipIdx]
  simp only [Nat.zero_add, h.firstGiven?_cell hc]
  by_cases place : t.rowIdColumn? = some i
  · simp only [place, if_true]
    exact filled i hi' hi place
  · have mem : (t.columns[i], row.cells[i]) ∈ t.columns.zip row.cells :=
      List.mem_iff_getElem?.mpr ⟨i, List.getElem?_zip_eq_some.mpr
        ⟨List.getElem?_eq_getElem hi, List.getElem?_eq_getElem hc⟩⟩
    have kept := h.leaning (t.columns[i], row.cells[i]) mem
    dsimp only at kept
    simp only [place, if_false, same i hi' hc place, kept]

/-- With its number the new row is the one that was given. -/
theorem exists_newCells (w : World) : ∃ values,
    t.newCells w (t.slots.zip row.cells) = .ok values ∧ t.numberedRow row.id values = row := by
  rcases place : t.rowIdColumn? with _ | k
  · refine ⟨row.cells, h.newCells_eq w h.width (fun _ _ _ _ => rfl) fun i _ _ other => ?_, ?_⟩
    · cases place.symm.trans other
    · unfold numberedRow
      rw [place]
  · have cell := h.numbered k place
    obtain ⟨hk, number⟩ := List.getElem?_eq_some_iff.mp cell
    have column := List.getElem?_eq_getElem (h.width ▸ hk : k < t.columns.length)
    obtain ⟨d, computed⟩ := h.default k _ place column w
    refine ⟨row.cells.set k d, h.newCells_eq w (by rw [List.length_set, h.width])
      (fun i hi hc other => ?_) fun i hi hc this => ?_, ?_⟩
    · have apart : k ≠ i := fun same => other (place.trans (congrArg some same))
      exact List.getElem_set_ne apart _
    · obtain rfl : k = i := Option.some.inj (place.symm.trans this)
      rw [computed, List.getElem_set_self]
    · unfold numberedRow
      rw [place]
      simp only [List.set_set, ← number, List.set_getElem_self]

/-! ## Storing it -/

theorem map_snd_zip : (t.columns.zip row.cells).map Prod.snd = row.cells :=
  List.map_snd_zip (Nat.le_of_eq h.width)

theorem run_requireCells (w : World) (given : Option Conflict) (c : Connection) :
    (Step.requireCells w given t row).run c = (.ok row, c) := by
  have present : ∀ p ∈ t.columns.zip row.cells, (p.1.notNull && same p.2 .null) = false :=
    fun p hp => by
      rcases required : p.1.notNull with _ | _
      · rfl
      · rw [h.present p hp required]
        rfl
  have filled : ∀ p ∈ t.columns.zip row.cells,
      (Step.filledCell w given t p.1 p.2).run c = (.ok p.2, c) := fun p hp => by
    unfold Step.filledCell
    rw [present p hp]
    rfl
  have checked : ((t.columns.zip row.cells).forM fun p =>
      if p.1.notNull && same p.2 .null then
        (Step.refuse .abort (.notNull t.name p.1.name) : Step Unit)
      else pure ()).run c = (.ok (), c) :=
    run_forM_of_quiet fun p hp => by
      simp only [present p hp, Bool.false_eq_true, if_false]
      rfl
  unfold Step.requireCells
  rw [run_bind, run_mapM_of_quiet (r := Prod.snd) filled]
  simp only [h.map_snd_zip, run_bind, checked]
  rfl

theorem run_requireChecks (w : World) (given : Option Conflict) (c : Connection) :
    (Step.requireChecks w given t row).run c = (.ok (), c) := by
  unfold Step.requireChecks
  refine run_forM_of_quiet fun check hc => ?_
  rw [run_bind, Step.run_ofExcept, h.holds w check hc]
  rfl

theorem run_besideNumber (given : Option Conflict) (c : Connection) :
    (Step.besideNumber given t row t.rows).run c = (.ok t.rows, c) := by
  have free : (t.rows.any fun r => r.id = row.id) = false :=
    List.any_eq_false.mpr fun r hr => by
      simpa using Int64.ne_of_lt (h.above r hr)
  unfold Step.besideNumber
  simp only [free, Bool.false_eq_true, if_false]
  rfl

theorem run_besideValues (w : World) (given : Option Conflict) (c : Connection) {u : Uniqueness}
    (hu : u ∈ us) : (Step.besideValues w given t row t.rows u).run c = (.ok t.rows, c) := by
  unfold Step.besideValues
  rw [run_bind, Step.run_ofExcept, h.alone w u hu]
  rfl

end Table.Admits

section Storing

variable {c : Connection} {t : Table} {row : Row}

theorem run_table (found : c.database.table? t.name = some t) :
    (Step.table t.name).run c = (.ok t, c) := by
  unfold Step.table
  simp only [run_bind, run_get, found]
  rfl

variable (h : t.Admits (c.database.uniquenesses t) row)

include h

theorem Table.Admits.run_beside (w : World) (given : Option Conflict) :
    (Step.beside w given t row t.rows).run c = (.ok t.rows, c) := by
  have values : ((c.database.uniquenesses t).foldlM (Step.besideValues w given t row) t.rows).run
      c = (.ok t.rows, c) :=
    run_foldlM_of_quiet fun u hu => h.run_besideValues w given c hu
  unfold Step.beside
  rw [run_bind, run_get]
  simp only []
  split
  · rw [run_bind, values]
    exact h.run_besideNumber given c
  · rw [run_bind, h.run_besideNumber given c]
    exact values

/-- A row that is admitted is stored. -/
theorem Table.Admits.run_storeRow (found : c.database.table? t.name = some t)
    (free : c.foreignKeys = false) (pushedOut : Table → Row → Step Unit) (given : Option Conflict) :
    (Step.storeRow pushedOut .insert given t.name none row).run c =
      (.ok (), { c with
        database := c.database.withRow t.name row, counted := c.counted + 1 }) := by
  have others : (t.rows.filter fun r => decide ((none : Option Row).map Row.id ≠ some r.id)) =
      t.rows := List.filter_eq_self.mpr fun _ _ => rfl
  have going : (t.rows.filter fun r => !t.rows.any fun s => s.id = r.id) = [] :=
    List.filter_eq_nil_iff.mpr fun r hr => by
      simp only [Bool.not_eq_true, Bool.not_eq_false', List.any_eq_true, decide_eq_true_eq]
      exact ⟨r, hr, rfl⟩
  have absent : ∀ f : Row → Step Unit, ((none : Option Row).forM f).run c = (.ok (), c) :=
    fun _ => rfl
  have joined : (Step.join .insert t row).run c = (.ok (), c) := by
    unfold Step.join
    simp only [run_bind, run_get, free]
    rfl
  unfold Step.storeRow
  simp only [run_bind, run_table found, Step.run_world, h.run_requireCells, h.run_requireChecks,
    others, h.run_beside, going, run_forM_nil, absent, joined]
  rfl

end Storing

/-! ## Its number -/

section Numbers

variable (t : Table) (c : Connection)

theorem exists_run_numbering :
    ∃ n ns, (Step.numbering t).run c = (.ok n, { c with numberings := ns }) := by
  unfold Step.numbering
  rw [run_bind, run_get]
  simp only []
  split
  · exact ⟨_, c.numberings, rfl⟩
  · exact ⟨_, _, rfl⟩

theorem exists_run_noteNumber (id : Int64) :
    ∃ ns, (Step.noteNumber t id).run c = (.ok (), { c with numberings := ns }) := by
  unfold Step.noteNumber
  rcases t.isLasting with _ | _
  · exact ⟨c.numberings, rfl⟩
  · obtain ⟨n, ns, known⟩ := exists_run_numbering t c
    simp only [if_true, run_bind, known]
    exact ⟨_, rfl⟩

variable {t}

theorem run_nextNumber (plain : t.isLasting = false) (room : t.greatestId ≠ Int64.maxValue) :
    (Step.nextNumber t).run c = (.ok (t.greatestId + 1), c) := by
  unfold Step.nextNumber
  simp only [plain, Bool.false_eq_true, if_false, run_bind, run_pure, room]

end Numbers

/-! ## Triggers -/

/-- No trigger of a table waits for insertions. -/
def Database.Unwatched (d : Database) (table : String) : Prop :=
  ∀ g ∈ d.triggersOf table, awaits g.event .insert = false

theorem Database.Unwatched.awaiting_eq_nil {d : Database} {table : String} (h : d.Unwatched table)
    (active : List String) (time : Sql.TriggerTime) : d.awaiting active time .insert table = [] :=
  List.filter_eq_nil_iff.mpr fun g hg => by simp [h g hg]

theorem Database.Unwatched.withRow {d : Database} {table : String} (h : d.Unwatched table)
    (row : Row) : (d.withRow table row).Unwatched table := fun g hg =>
  h g (by rwa [Database.withRow, Database.triggersOf_modifyTable] at hg)

/-- Where no trigger waits, nothing follows from a row that is added. -/
theorem run_follow_of_awaiting_nil {c : Connection} {t : Table} (depth : Nat)
    (active : List String) (given : Option Conflict) (time : Sql.TriggerTime) (event : Event)
    (new : Option Row) (h : c.database.awaiting active time event t.name = []) :
    (Step.follow (depth + 1) active given time event t none new).run c = (.ok (), c) := by
  unfold Step.follow
  cases time <;> simp only [run_bind, run_get, h] <;> rfl

/-! ## Parameters -/

section Parameters

variable {w : World} {indexes : List Nat} {es : List Expr} (refers : List.Forall₂ Refers indexes es)

include refers

theorem evalAll_refers (frames : List Frame) :
    evalAll w frames [] es = .ok (indexes.map fun i => w.parameters.getD (i - 1) .null) := by
  induction refers with
  | nil => rfl
  | cons first _ ih =>
    obtain ⟨offset, rfl⟩ := first
    unfold evalAll
    rw [ih]
    rfl

theorem checkExprs_refers (setting : w.setting = .statement) (shapes : List Shape) (g : Bool) :
    checkExprs w shapes g es = .ok () := by
  induction refers with
  | nil => rfl
  | @cons i _ _ _ first _ ih =>
    obtain ⟨offset, rfl⟩ := first
    have search : (searchExpr w shapes g none (.parameter i offset)).result = .ok () := by
      unfold searchExpr checkAllowed
      rw [setting]
      rfl
    unfold checkExprs
    rw [search]
    exact ih

end Parameters

/-- The parameters of a row are its cells. -/
theorem map_getD_range' (cells : List Cell) :
    ((List.range' 1 cells.length).map fun i => cells.getD (i - 1) .null) = cells := by
  refine List.ext_getElem (by simp) fun i hi hi' => ?_
  simp [List.getD_eq_getElem?_getD, List.getElem?_eq_getElem hi']

/-! ## Inserting it -/

section Inserting

variable {c : Connection} {t : Table} {row : Row}
  (h : t.Admits (c.database.uniquenesses t) row) (found : c.database.table? t.name = some t)
  (free : c.foreignKeys = false) (unwatched : c.database.Unwatched t.name)

include h found free unwatched

theorem Table.Admits.exists_run_insertOne (depth : Nat) (given : Option Conflict) :
    ∃ ns, (Step.insertOne (Step.follow (depth + 1) []) given t (t.slots.zip row.cells)).run c =
      (.ok (), { c with
        database := c.database.withRow t.name row, counted := c.counted + 1
        lastInsertId := row.id, numberings := ns }) := by
  obtain ⟨values, computed, made⟩ := h.exists_newCells (c.world [] .statement)
  obtain ⟨ns, noted⟩ := exists_run_noteNumber t c row.id
  have quiet : ∀ time new,
      (Step.follow (depth + 1) [] given time .insert t none new).run c = (.ok (), c) :=
    fun time new =>
      run_follow_of_awaiting_nil depth [] given time .insert new (unwatched.awaiting_eq_nil [] time)
  have followed : ∀ time new, (Step.follow (depth + 1) [] given time .insert t none new).run
      { c with
        database := c.database.withRow t.name row, counted := c.counted + 1
        lastInsertId := row.id, numberings := ns } = (.ok (), _) :=
    fun time new => run_follow_of_awaiting_nil depth [] given time .insert new
      ((unwatched.withRow row).awaiting_eq_nil [] time)
  have stored := h.run_storeRow (c := { c with numberings := ns }) found free
    (Step.displaced (Step.follow (depth + 1) [])) given
  refine ⟨ns, ?_⟩
  unfold Step.insertOne
  simp only [run_bind, Step.run_ofExcept, h.givenNumber_eq, computed, mapError_ok, Step.run_world,
    quiet, run_table found]
  -- The number is given or the next one; then all goes on alike.
  rcases place : t.rowIdColumn? with _ | i
  · obtain ⟨room, next⟩ := h.next place
    simp only [Option.map_none, run_bind, run_nextNumber c (Table.isLasting_eq_false place) room,
      ← next, noted, made, stored, run_modify, followed]
  · simp only [Option.map_some, run_bind, run_pure, noted, made, stored, run_modify, followed]

/-- The row is inserted from the parameters of a statement. -/
theorem Table.Admits.exists_run_rows (proper : t.Proper) {es : List Expr}
    (refers : List.Forall₂ Refers (List.range' 1 t.columns.length) es) (depth : Nat)
    (given : Option Conflict) :
    ∃ ns, (do
        let slots ← Step.ofExcept
          (insertedSlots t t.name (some (t.columns.map Column.name)))
        let rows ← Step.ofExcept (insertedRows (← Step.world row.cells) [] (.values [es]))
        rows.forM fun cells => Step.leavable
          (Step.insertOne (Step.follow (depth + 1) []) given t (slots.zip cells)) :
          Step Unit).run c =
      (.ok (), { c with
        database := c.database.withRow t.name row, counted := c.counted + 1
        lastInsertId := row.id, numberings := ns }) := by
  obtain ⟨ns, inserted⟩ := h.exists_run_insertOne found free unwatched depth given
  have cells : evalAll (c.world row.cells .statement) [] [] es = .ok row.cells := by
    rw [evalAll_refers refers, ← h.width]
    exact congrArg Except.ok (map_getD_range' row.cells)
  have rows : insertedRows (c.world row.cells .statement) [] (.values [es]) = .ok [row.cells] := by
    show [es].mapM (evalAll (c.world row.cells .statement) [] []) = _
    rw [List.mapM_cons, cells]
    rfl
  refine ⟨ns, ?_⟩
  simp only [run_bind, Step.run_ofExcept, proper.insertedSlots_names, mapError_ok, Step.run_world,
    rows, run_forM_single]
  unfold Step.leavable
  rw [run_tryCatch, inserted]

/-- An insertion of the row into all columns stores it. -/
theorem Table.Admits.exists_run_change (proper : t.Proper) {es : List Expr}
    (refers : List.Forall₂ Refers (List.range' 1 t.columns.length) es) (depth : Nat) :
    ∃ ns, (Step.change (Step.follow (depth + 1) []) row.cells [] none
        (Sql.rowInsertion t.name (t.columns.map Column.name) es)).run c =
      (.ok (), { c with
        database := c.database.withRow t.name row, counted := c.counted + 1
        lastInsertId := row.id, numberings := ns }) := by
  unfold Sql.rowInsertion Step.change
  rw [run_bind, run_table found]
  rcases lasting : t.isLasting with _ | _
  · simp only [lasting, Bool.false_eq_true, if_false]
    exact h.exists_run_rows found free unwatched proper refers depth _
  · obtain ⟨n, ms, known⟩ := exists_run_numbering t c
    simp only [lasting, if_true]
    rw [run_bind, known]
    exact Table.Admits.exists_run_rows (c := { c with numberings := ms }) h found free unwatched
      proper refers depth _

end Inserting

end FilterStore.Engine
