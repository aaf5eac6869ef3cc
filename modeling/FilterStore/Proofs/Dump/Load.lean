import FilterStore.Proofs.Dump.Columns
import FilterStore.Proofs.Dump.Snapshot
import FilterStore.Proofs.Engine.Insertion
import FilterStore.Proofs.Store.Action
import FilterStore.Proofs.Value.Interchange

/-!
# Loading rows

Rows that a table admits one after the other are loaded as they are, and loading them changes no
other table but that of the numbers that were given.  So tables are loaded one after the other, and
in the end each of them has its rows (`Target.exists_run_load`).
-/

namespace FilterStore

open Document (rowsJson)
open Engine (Connection Database Row Table Uniqueness bound)
open Engine.Database (AlikeBut numberingName)
open Sql (Column)
open Text (sameName)

/-- Rows can be inserted one after the other behind those of a table. -/
structure Engine.Table.Takes (t : Table) (us : List Uniqueness) (rows : List Row) : Prop where
  admits : ∀ before row after, rows = before ++ row :: after →
    ({ t with rows := t.rows ++ before } : Table).Admits us row
  finite : ∀ row ∈ rows, ∀ cell ∈ row.cells, cell.IsFinite ∧ bound cell = cell

theorem Engine.Table.Takes.tail {t : Table} {us : List Uniqueness} {row : Row} {rows : List Row}
    (h : t.Takes us (row :: rows)) :
    ({ t with rows := t.rows ++ [row] } : Table).Takes us rows where
  admits before next after split := by
    have admitted := h.admits (row :: before) next after (congrArg (row :: ·) split)
    rwa [← List.singleton_append, ← List.append_assoc] at admitted
  finite row' hr := h.finite row' (List.mem_cons_of_mem row hr)

/-- What loading rows leaves as it was. -/
structure Engine.Connection.LoadsTo (names : List String) (c c' : Connection) : Prop
    extends Connection.Keeps c c' where
  database : AlikeBut names c.database c'.database

theorem Engine.Connection.LoadsTo.refl (names : List String) (c : Connection) :
    c.LoadsTo names c := ⟨.refl c, .refl _ _⟩

theorem Engine.Connection.LoadsTo.trans {names : List String} {c₁ c₂ c₃ : Connection}
    (first : c₁.LoadsTo names c₂) (second : c₂.LoadsTo names c₃) : c₁.LoadsTo names c₃ :=
  ⟨first.toKeeps.trans second.toKeeps, first.database.trans second.database⟩

/-- What occurs once in a table does not depend on its rows. -/
theorem Engine.Database.AlikeBut.uniquenesses {names : List String} {d d' : Database}
    (h : AlikeBut names d d') (t : Table) (rows : List Row) :
    d'.uniquenesses { t with rows } = d.uniquenesses t := by
  unfold Database.uniquenesses
  rw [h.indexesOf]
  rfl

theorem Engine.Database.AlikeBut.unwatched {names : List String} {d d' : Database}
    (h : AlikeBut names d d') {table : String} (unwatched : d.Unwatched table) :
    d'.Unwatched table := fun g hg => unwatched g (h.triggersOf table ▸ hg)

/-- What a definition sees to does not depend on the rows. -/
theorem Engine.Table.Proper.withRows {t : Table} (h : t.Proper) (rows : List Row) :
    ({ t with rows } : Table).Proper := ⟨h.nonempty, h.distinct, h.name, h.columnNames⟩

theorem map_ofJson_toJson {cells : List Cell} (finite : ∀ cell ∈ cells, cell.IsFinite) :
    (cells.map Cell.toJson).map Cell.ofJson = cells := by
  rw [List.map_map]
  exact (List.map_congr_left fun cell hc => Cell.ofJson_toJson (finite cell hc)).trans
    (List.map_id _)

namespace Target

/-- To insert a row is to ask for its insertion; the answer does not matter. -/
theorem run_insert (table : String) (columns : List String) (row : List Json) (c : Connection) :
    (connection.insert table columns row).run c =
      match (Action.query ⟨Replay.insertSql table columns, row.map Cell.ofJson⟩).run c with
      | (.ok _, c) => (.ok (), c)
      | (.error e, c) => (.error e, c) := by
  have unfolded : connection.insert table columns row = (do
    let _ ← Action.query ⟨Replay.insertSql table columns, row.map Cell.ofJson⟩) := rfl
  rw [unfolded, run_bind]
  rcases (Action.query ⟨Replay.insertSql table columns, row.map Cell.ofJson⟩).run c with
    ⟨_ | _, _⟩ <;> rfl

section Rows

variable {c : Connection} {t : Table} (proper : t.Proper)
  (found : c.database.table? t.name = some t) (free : c.foreignKeys = false)
  (unwatched : c.database.Unwatched t.name) (opened : c.transaction.isSome)
  (writable : c.readOnly = false) (apart : sameName numberingName t.name = false)

include proper found free unwatched opened writable apart

/-- A row that a table admits is inserted from its JSON. -/
theorem exists_run_insert {row : Row} (admitted : t.Admits (c.database.uniquenesses t) row)
    (finite : ∀ cell ∈ row.cells, cell.IsFinite ∧ bound cell = cell) :
    ∃ c', (connection.insert t.name (t.columns.map Column.name)
        (row.cells.map Cell.toJson)).run c = (.ok (), c') ∧
      c.LoadsTo [t.name, numberingName] c' ∧
      c'.database.table? t.name = some { t with rows := t.rows ++ [row] } := by
  obtain ⟨answer, d, ns, alike, asked⟩ := admitted.exists_run_query proper found free unwatched
    opened writable fun cell hc => (finite cell hc).2
  have inserted := run_insert t.name (t.columns.map Column.name) (row.cells.map Cell.toJson) c
  rw [map_ofJson_toJson fun cell hc => (finite cell hc).1, asked] at inserted
  have stored : AlikeBut [t.name] c.database (c.database.withRow t.name row) :=
    Database.alikeBut_modifyTable _ _ fun _ => rfl
  have other : ∀ n ∈ [numberingName], sameName n t.name = false := by simpa using apart
  exact ⟨_, inserted,
    ⟨⟨rfl, rfl, rfl, rfl⟩, (stored.mono (by simp)).trans (alike.mono (by simp))⟩,
    (alike.table? t.name other).trans (c.database.table?_withRow found admitted.above)⟩

/-- Rows that a table takes are inserted one after the other. -/
theorem exists_run_insertAll {rows : List Row}
    (takes : t.Takes (c.database.uniquenesses t) rows) :
    ∃ c', ((rowsJson rows).forM
        (connection.insert t.name (t.columns.map Column.name))).run c = (.ok (), c') ∧
      c.LoadsTo [t.name, numberingName] c' ∧
      c'.database.table? t.name = some { t with rows := t.rows ++ rows } := by
  induction rows generalizing c t with
  | nil => exact ⟨c, rfl, .refl _ _, by rw [List.append_nil]; exact found⟩
  | cons row rows ih =>
    have first := takes.admits [] row rows rfl
    rw [List.append_nil] at first
    obtain ⟨c₁, inserted, loaded, found₁⟩ := exists_run_insert proper found free unwatched opened
      writable apart first (takes.finite row List.mem_cons_self)
    have rest : ({ t with rows := t.rows ++ [row] } : Table).Takes
        (c₁.database.uniquenesses { t with rows := t.rows ++ [row] }) rows := by
      rw [loaded.database.uniquenesses]
      exact takes.tail
    obtain ⟨c', inserted', loaded', found'⟩ := ih (proper.withRows (t.rows ++ [row]))
      found₁ (loaded.foreignKeys.trans free) (loaded.database.unwatched unwatched)
      (loaded.isSome opened) (loaded.readOnly.trans writable) apart rest
    refine ⟨c', ?_, loaded.trans loaded', ?_⟩
    · rw [rowsJson, List.map_cons, run_forM_cons, run_bind, inserted]
      exact inserted'
    · rw [found', List.append_assoc]
      rfl

end Rows

/-! ## One table -/

/-- Recorded columns that are those of the table, in their order, and rows of that size. -/
theorem checkColumns_self {columns : List String} (table : String) (nonempty : columns ≠ [])
    {rows : List (List Json)} (width : ∀ row ∈ rows, row.length = columns.length) :
    checkColumns table columns columns rows = .ok () :=
  checkColumns_eq_ok_iff.mpr ⟨nonempty, rfl, fun c hc => ⟨c, hc, Text.sameName_refl c⟩, width⟩

theorem columns_connection {c : Connection} {t : Table} (named : Sql.NulFree t.name)
    (found : c.database.table? t.name = some t) :
    connection.columns c t.name = t.columns.map Column.name := by
  have whole : String.ofList (Engine.untilNull t.name) = t.name :=
    (congrArg String.ofList named.seen).trans String.ofList_toList
  have relation : (c.world [] .statement).relation? t.name = some { t.relation with
      sought := t.relation.sought ++ (c.database.indexesOf t.name).filterMap
        Engine.Index.firstColumn? } := by
    have looked := Engine.relation_of_table? c.now found
    unfold Engine.World.relation? Connection.world
    simp only [looked]
    rfl
  unfold connection
  simp only [whole, relation]
  exact Engine.names_columnShapes t

section Targets

variable {σ : Type} (target : Target σ) (table : String) (rows : List (List Json)) (s : σ)

/-- The rows of a table are inserted in a transaction. -/
theorem run_insertRows (columns : List String) :
    (target.insertRows table columns rows).run s =
      match (target.bounds.whole (rows.forM (target.insert table columns))).run s with
      | (.ok (), s) => (none, s)
      | (.error f, s) => (some (.notInserted f), s) := by
  have apart : ∀ (x : ExceptT Failure (StateM σ) Unit)
      (f : Except Failure Unit → StateM σ (Option RestoreFault)),
      (x.run >>= f).run s = (f (x.run s).1).run (x.run s).2 := fun _ _ => rfl
  rw [insertRows, apart]
  rcases (target.bounds.whole (rows.forM (target.insert table columns))).run s with
    ⟨_ | _, _⟩ <;> rfl

/-- Rows are inserted if the columns are as recorded and there are rows. -/
theorem run_loadTable (d : Document) :
    (target.loadTable d table rows).run s =
      match checkColumns table ((d.tables.lookup table).getD []) (target.columns s table) rows with
      | .error f => (some f, s)
      | .ok () =>
        if rows.isEmpty then (none, s)
        else (target.insertRows table ((d.tables.lookup table).getD []) rows).run s := by
  have unfolded : (target.loadTable d table rows).run s =
      (match checkColumns table ((d.tables.lookup table).getD []) (target.columns s table) rows with
      | .error f => pure (some f)
      | .ok () =>
        if rows.isEmpty then pure none
        else target.insertRows table ((d.tables.lookup table).getD []) rows :
        StateM σ (Option RestoreFault)).run s := rfl
  rw [unfolded]
  split
  · rfl
  · split <;> rfl

theorem run_load_cons (d : Document) (rest : List (String × List (List Json))) :
    (target.load d ((table, rows) :: rest)).run s =
      (((((target.loadTable d table rows).run s).1.map fun f => (table, f)).toList ++
          ((target.load d rest).run ((target.loadTable d table rows).run s).2).1),
        ((target.load d rest).run ((target.loadTable d table rows).run s).2).2) := rfl

end Targets

/-- Nothing is under way on a connection, and rows may be loaded into its database. -/
structure Idle (c : Connection) : Prop where
  transaction : c.transaction = none
  owedLater : c.owedLater = 0
  foreignKeys : c.foreignKeys = false
  readOnly : c.readOnly = false

/-- An empty table of a database into which rows can be loaded that a document has for it. -/
structure Loadable (d : Document) (e : Database) (t : Table) (rows : List Row) : Prop where
  proper : t.Proper
  empty : t.rows = []
  found : e.table? t.name = some t
  unwatched : e.Unwatched t.name
  apart : sameName numberingName t.name = false
  recorded : d.tables.lookup t.name = some (t.columns.map Column.name)
  takes : t.Takes (e.uniquenesses t) rows

/-- Loading other tables does not matter. -/
theorem Loadable.congr {d : Document} {e e' : Database} {t : Table} {rows : List Row}
    {names : List String} (h : Loadable d e t rows) (alike : AlikeBut names e e')
    (other : ∀ n ∈ names, sameName n t.name = false) : Loadable d e' t rows where
  proper := h.proper
  empty := h.empty
  found := (alike.table? t.name other).trans h.found
  unwatched := alike.unwatched h.unwatched
  apart := h.apart
  recorded := h.recorded
  takes := (alike.uniquenesses t t.rows).symm ▸ h.takes

theorem exists_run_loadTable {d : Document} {c : Connection} {t : Table} {rows : List Row}
    (idle : Idle c) (h : Loadable d c.database t rows) :
    ∃ c', (connection.loadTable d t.name (rowsJson rows)).run c = (none, c') ∧
      Idle c' ∧ AlikeBut [t.name, numberingName] c.database c'.database ∧
      c'.database.table? t.name = some { t with rows } := by
  obtain ⟨proper, empty, found, unwatched, apart, recorded, takes⟩ := h
  have width : ∀ row ∈ rowsJson rows,
      row.length = (t.columns.map Column.name).length := by
    intro row hr
    obtain ⟨r, mem, rfl⟩ := List.mem_map.mp hr
    obtain ⟨before, after, split⟩ := List.append_of_mem mem
    have admitted := (takes.admits before r after split).width
    rwa [List.length_map, List.length_map]
  have checked := checkColumns_self t.name (by simpa using proper.nonempty) width
  have table := run_loadTable connection t.name (rowsJson rows) c d
  rw [recorded, columns_connection proper.name found, Option.getD_some, checked] at table
  rw [table]
  obtain _ | ⟨row, rows⟩ := rows
  · refine ⟨c, rfl, idle, .refl _ _, ?_⟩
    rw [found, ← empty]
  obtain ⟨c₁, inserted, loaded, found₁⟩ := exists_run_insertAll (c := c.begun) proper found
    idle.foreignKeys unwatched rfl idle.readOnly apart takes
  have whole := Action.run_whole_of_ok idle.transaction inserted
    (loaded.isSome rfl) (loaded.owedLater.trans idle.owedLater)
  have kept := run_insertRows connection t.name (rowsJson (row :: rows)) c
    (t.columns.map Column.name)
  have bounds : connection.bounds = Action.bounds := rfl
  rw [bounds, whole] at kept
  refine ⟨_, kept, ⟨rfl, rfl, loaded.foreignKeys.trans idle.foreignKeys,
    loaded.readOnly.trans idle.readOnly⟩, loaded.database, ?_⟩
  rw [found₁, empty, List.nil_append]

/-! ## All tables -/

/-- Tables of different names are loaded one after the other, and none of them fails. -/
theorem exists_run_load {d : Document} {c : Connection} {ps : List (Table × List Row)}
    (idle : Idle c) (loadable : ∀ p ∈ ps, Loadable d c.database p.1 p.2)
    (distinct : ps.Pairwise fun p q => sameName p.1.name q.1.name = false) :
    ∃ c', (connection.load d (ps.map fun p => (p.1.name, rowsJson p.2))).run c = ([], c') ∧
      Idle c' ∧ AlikeBut (numberingName :: ps.map fun p => p.1.name) c.database c'.database ∧
      ∀ p ∈ ps, c'.database.table? p.1.name = some { p.1 with rows := p.2 } := by
  induction ps generalizing c with
  | nil => exact ⟨c, rfl, idle, .refl _ _, fun p hp => by cases hp⟩
  | cons p ps ih =>
    obtain ⟨first, others⟩ := List.pairwise_cons.mp distinct
    have hp := loadable p List.mem_cons_self
    obtain ⟨c₁, loaded, idle₁, alike₁, found₁⟩ := exists_run_loadTable idle hp
    obtain ⟨c', loaded', idle', alike', found'⟩ := ih idle₁ (fun q hq => by
      have hq' := loadable q (List.mem_cons_of_mem p hq)
      refine hq'.congr alike₁ fun n hn => ?_
      rcases List.mem_cons.mp hn with rfl | hn
      · exact first q hq
      · exact List.mem_singleton.mp hn ▸ hq'.apart) others
    refine ⟨c', ?_, idle', ?_, ?_⟩
    · rw [List.map_cons, run_load_cons, loaded]
      simp only [loaded']
      rfl
    · refine (alike₁.mono ?_).trans (alike'.mono ?_)
      · simp
      · exact List.cons_subset_cons _ (List.subset_cons_self ..)
    · intro q hq
      rcases List.mem_cons.mp hq with rfl | hq
      · refine (alike'.table? q.1.name fun n hn => ?_).trans found₁
        rcases List.mem_cons.mp hn with rfl | hn
        · exact hp.apart
        · obtain ⟨r, hr, rfl⟩ := List.mem_map.mp hn
          exact (Text.sameName_comm _ _).trans (first r hr)
      · exact found' q hq

end Target

end FilterStore
