import FilterStore.Proofs.Calendar.Date
import FilterStore.Proofs.Dump.Snapshot
import FilterStore.Proofs.Schema.Outline
import FilterStore.Schema.Introspection

/-!
# Nothing is left out

A dump records the tables of a database, and a registry can be made of them.  Both leave out the
engine's own tables, which they tell by their names: these start with `sqlite_`.  But the underscore
in the pattern that is asked for stands for any character.  So a table is recorded, with all of its
columns and rows, unless its name *resembles* those of the engine: it starts with `sqlite`, and
whatever character comes next.  The same goes for tables that can be addressed and the registry
(`Document.records_iff_not_resembles`).

This is how far the pattern goes wrong, and there is nothing else that leaves tables out: whatever
a database holds, the dump and the registry are made without fail.
-/

namespace FilterStore

open Engine (Connection Database Index SchemaObject Table isReserved)
open Sql (Column)
open Text (lower sameName trim)

/-! ## Names that are left out -/

/-- Whether a name starts like those that the engine keeps to itself, and goes on with another
character than they do. -/
def Engine.Resembles (name : String) : Prop :=
  ∃ mark rest, (lower name).toList = "sqlite".toList ++ mark :: rest ∧ mark ≠ '_'

/-- What is left out of a dump without being reserved resembles what is. -/
theorem isInternal_iff_resembles {name : String} (h : isReserved name = false) :
    isInternal name = true ↔ Engine.Resembles name := by
  have start : Engine.reservedStart.toList = "sqlite".toList ++ ['_'] := by decide +kernel
  rw [isReserved, start] at h
  rw [isInternal_iff]
  refine exists_congr fun mark => exists_congr fun rest => ?_
  refine ⟨fun split => ⟨split, ?_⟩, And.left⟩
  rintro rfl
  rw [split] at h
  cases h

/-- What the engine sees to in a database, and that no temporary table hides another one. -/
structure Engine.Database.Orderly (d : Database) : Prop where
  readable : ∀ t ∈ d.tables, Document.Readable d t
  distinct : d.tables.Pairwise fun a b => sameName a.name b.name = false
  /-- An index is of columns that its table has. -/
  indexed : ∀ t ∈ d.tables, ∀ i ∈ d.indexesOf t.name, ∀ c ∈ i.columns?.getD [],
    ∃ column ∈ t.columns, sameName column.name c.name = true

namespace Registry

/-! ## Registering what a database has -/

section Tables

variable {d : Database} {r : Registry} {t : Table}

/-- A table in outline. -/
def outlineOf (t : Table) : String × List String := (t.name, t.columns.map Column.name)

theorem mem_spelled {name : String} (h : ∃ c ∈ t.columns, sameName c.name name = true) :
    spelled t name ∈ t.columns.map Column.name := by
  obtain ⟨c, hc, same⟩ := h
  obtain ⟨found, hfound⟩ : ∃ found, t.columns.find? (fun c => sameName c.name name) = some found :=
    Option.isSome_iff_exists.mp (List.find?_isSome.mpr ⟨c, hc, same⟩)
  rw [spelled, hfound, Option.map_some, Option.getD_some]
  exact List.mem_map_of_mem (List.mem_of_find?_eq_some hfound)

theorem names_columnDefinition (key : List String)
    (identifiers : ∀ c ∈ t.columns, isIdentifier c.name = true) :
    (t.columns.map (columnDefinition key)).map ColumnDefinition.name = t.columns.map Column.name := by
  rw [List.map_map]
  exact List.map_congr_left fun c hc => trim_of_isIdentifier (identifiers c hc)

/-- Indexes do not show in the outline. -/
theorem exists_registerIndexes (hr : r.Consistent) (unlocked : r.locked = false)
    (there : outlineOf t ∈ r.outline) {is : List Index}
    (indexed : ∀ i ∈ is, ∀ c ∈ i.columns?.getD [],
      ∃ column ∈ t.columns, sameName column.name c.name = true) :
    ∃ r', is.foldlM (registerIndex t) r = .ok r' ∧ r'.Consistent ∧ r'.locked = false ∧
      r'.outline = r.outline := by
  induction is generalizing r with
  | nil => exact ⟨r, rfl, hr, unlocked, rfl⟩
  | cons i is ih =>
    obtain ⟨first, others⟩ := List.forall_mem_cons.mp indexed
    obtain ⟨s, registered, consistent, still, outline⟩ : ∃ s, registerIndex t r i = .ok s ∧
        s.Consistent ∧ s.locked = false ∧ s.outline = r.outline := by
      unfold registerIndex
      split
      · exact ⟨r, rfl, hr, unlocked, rfl⟩
      · rename_i columns nonempty
        split
        · rename_i identifier
          obtain ⟨td, htd, named⟩ := List.mem_map.mp there
          obtain ⟨name, columnNames⟩ := Prod.ext_iff.mp named
          rw [← show td.name = t.name from name]
          refine exists_addIndex hr unlocked identifier htd nonempty (fun c hc => ?_) i.unique
          obtain ⟨k, hk, rfl⟩ := List.mem_map.mp hc
          rw [show td.columnNames = t.columns.map Column.name from columnNames]
          exact mem_spelled (first k hk)
        · exact ⟨r, rfl, hr, unlocked, rfl⟩
    obtain ⟨r', rest, consistent', still', outline'⟩ :=
      ih consistent still (outline ▸ there) others
    refine ⟨r', ?_, consistent', still', outline'.trans outline⟩
    rw [List.foldlM_cons, registered]
    exact rest

/-- A table that can be addressed comes last in the outline. -/
theorem exists_registerTable (hr : r.Consistent) (unlocked : r.locked = false)
    (addressable : isAddressable t = true)
    (distinct : t.columns.Pairwise fun a b => sameName a.name b.name = false)
    (fresh : ∀ e ∈ r.outline, sameName e.1 t.name = false)
    (indexed : ∀ i ∈ d.indexesOf t.name, ∀ c ∈ i.columns?.getD [],
      ∃ column ∈ t.columns, sameName column.name c.name = true) :
    ∃ r', registerTable d r t = .ok r' ∧ r'.Consistent ∧ r'.locked = false ∧
      r'.outline = r.outline ++ [outlineOf t] := by
  obtain ⟨identifier, identifiers⟩ := Bool.and_eq_true_iff.mp addressable
  rw [List.all_eq_true] at identifiers
  have names := names_columnDefinition (t.primaryColumns.map (spelled t)) identifiers
  have named : ∀ c ∈ t.columns.map (columnDefinition (t.primaryColumns.map (spelled t))),
      isIdentifier c.name = true := by
    have all : ∀ n ∈ t.columns.map Column.name, isIdentifier n = true :=
      List.forall_mem_map.mpr identifiers
    rw [← names] at all
    exact List.forall_mem_map.mp all
  have apart : (t.columns.map (columnDefinition (t.primaryColumns.map (spelled t)))).Pairwise
      fun a b => sameName a.name b.name = false := by
    have all : (t.columns.map Column.name).Pairwise fun a b => sameName a b = false :=
      List.pairwise_map.mpr distinct
    rw [← names] at all
    exact List.pairwise_map.mp all
  have texts : ∀ k ∈ keyConstraints (t.primaryColumns.map (spelled t)), ∃ text, k = .sql text := by
    intro k hk
    unfold keyConstraints at hk
    split at hk
    · exact ⟨_, List.mem_singleton.mp hk⟩
    · cases hk
  have new : ∀ td ∈ r.tables, sameName td.name t.name = false := fun td htd =>
    fresh (td.name, td.columnNames) (List.mem_map_of_mem htd)
  obtain ⟨s, added, consistent, still, outline⟩ :=
    exists_addTable hr unlocked identifier new named apart texts
  rw [names] at outline
  have there : outlineOf t ∈ s.outline := by
    rw [outline]
    exact List.mem_append_right _ (List.mem_singleton_self _)
  obtain ⟨r', indexes, consistent', still', outline'⟩ :=
    exists_registerIndexes consistent still there indexed
  refine ⟨r', ?_, consistent', still', outline'.trans outline⟩
  rw [registerTable, if_pos addressable]
  simp only [added, ok_bind]
  exact indexes

/-- The tables that can be addressed come last in the outline, in their order. -/
theorem exists_registerTables (h : d.Orderly) {ts : List Table} (part : ∀ t ∈ ts, t ∈ d.tables)
    (distinct : ts.Pairwise fun a b => sameName a.name b.name = false)
    (hr : r.Consistent) (unlocked : r.locked = false)
    (fresh : ∀ t ∈ ts, ∀ e ∈ r.outline, sameName e.1 t.name = false) :
    ∃ r', ts.foldlM (registerTable d) r = .ok r' ∧ r'.Consistent ∧ r'.locked = false ∧
      r'.outline = r.outline ++ (ts.filter isAddressable).map outlineOf := by
  induction ts generalizing r with
  | nil => exact ⟨r, rfl, hr, unlocked, (List.append_nil _).symm⟩
  | cons t ts ih =>
    obtain ⟨ht, part⟩ := List.forall_mem_cons.mp part
    obtain ⟨first, distinct⟩ := List.pairwise_cons.mp distinct
    obtain ⟨new, fresh⟩ := List.forall_mem_cons.mp fresh
    rw [List.foldlM_cons]
    by_cases addressable : isAddressable t = true
    · obtain ⟨s, registered, consistent, still, outline⟩ := exists_registerTable hr unlocked
        addressable (h.readable t ht).proper.distinct new (h.indexed t ht)
      have fresh' : ∀ u ∈ ts, ∀ e ∈ s.outline, sameName e.1 u.name = false := fun u hu e he => by
        rw [outline] at he
        rcases List.mem_append.mp he with he | he
        · exact fresh u hu e he
        · obtain rfl := List.mem_singleton.mp he
          exact first u hu
      obtain ⟨r', rest, consistent', still', outline'⟩ := ih part distinct consistent still fresh'
      refine ⟨r', ?_, consistent', still', ?_⟩
      · rw [registered]
        exact rest
      · rw [outline', outline, List.filter_cons_of_pos addressable, List.map_cons,
          List.append_assoc, List.singleton_append]
    · have passed : registerTable d r t = .ok r := by
        rw [registerTable, if_neg addressable]
      rw [passed, List.filter_cons_of_neg addressable]
      exact ih part distinct hr unlocked fresh

/-- Triggers do not show in the outline. -/
theorem exists_registerTriggers (hr : r.Consistent) (unlocked : r.locked = false)
    (gs : List Engine.Trigger) :
    ∃ r', gs.foldlM registerTrigger r = .ok r' ∧ r'.Consistent ∧ r'.outline = r.outline := by
  induction gs generalizing r with
  | nil => exact ⟨r, rfl, hr, rfl⟩
  | cons g gs ih =>
    obtain ⟨s, registered, consistent, still, outline⟩ : ∃ s, registerTrigger r g = .ok s ∧
        s.Consistent ∧ s.locked = false ∧ s.outline = r.outline := by
      unfold registerTrigger
      split
      · rename_i condition
        obtain ⟨identifier, there⟩ := Bool.and_eq_true_iff.mp condition
        exact exists_registered hr unlocked identifier there g.text
      · exact ⟨r, rfl, hr, unlocked, rfl⟩
    obtain ⟨r', rest, consistent', outline'⟩ := ih consistent still
    refine ⟨r', ?_, consistent', outline'.trans outline⟩
    rw [List.foldlM_cons, registered]
    exact rest

end Tables

/-- **The registry of a database has the tables that can be addressed and whose names do not speak
against it, with their columns, and nothing else.** -/
theorem exists_ofDatabase (options : RegistryOptions) {d : Database} (h : d.Orderly) :
    ∃ r, ofDatabase options d = .ok r ∧ r.outline =
      ((d.tables.filter fun t => !isInternal t.name).filter isAddressable).map outlineOf := by
  obtain ⟨s, tables, consistent, still, outline⟩ := exists_registerTables h
    (fun t ht => (List.mem_filter.mp ht).1) (h.distinct.filter fun t => !isInternal t.name)
    (consistent_empty options) rfl fun _ _ _ he => absurd he List.not_mem_nil
  obtain ⟨r, triggers, -, outline'⟩ :=
    exists_registerTriggers consistent still (d.objects.filterMap SchemaObject.trigger?)
  refine ⟨r, ?_, outline'.trans outline⟩
  simp only [ofDatabase, tables, ok_bind]
  exact triggers

end Registry

namespace Document

/-- A document has the columns and all rows of a table. -/
structure Records (doc : Document) (t : Table) : Prop where
  columns : doc.tables.lookup t.name = some (t.columns.map Column.name)
  rows : doc.data.lookup t.name = some (rowsJson t.rows)

/-- The tables that are recorded. -/
theorem filterMap_recordedObjects (d : Database) :
    (recordedObjects d).filterMap SchemaObject.table? =
      d.tables.filter fun t => !isInternal t.name := by
  rw [recordedObjects, Database.tables]
  induction d.objects with
  | nil => rfl
  | cons o os ih =>
    rw [List.filter_cons, List.filterMap_cons]
    cases o with
    | table t =>
      have named : (SchemaObject.table t).name = t.name := rfl
      have part : (SchemaObject.table t).table? = some t := rfl
      rw [named, part]
      dsimp only
      rw [List.filter_cons]
      split
      · rw [List.filterMap_cons, part, ih]
      · exact ih
    | index | trigger | view =>
      split
      · exact ih
      · exact ih

theorem records_recording_iff {d : Database} (h : d.Orderly) {t : Table} (ht : t ∈ d.tables) :
    (recording d).Records t ↔ isInternal t.name = false := by
  have recorded : recording d = { empty with sql := .ofObjects (recordedObjects d) }.withTables
      (d.tables.filter fun t => !isInternal t.name) := by
    rw [← filterMap_recordedObjects]
    rfl
  have distinct : (d.tables.filter fun t => !isInternal t.name).Pairwise
      fun a b => a.name ≠ b.name :=
    (h.distinct.filter _).imp fun {a b} apart same => by
      rw [same, Text.sameName_refl] at apart
      cases apart
  rw [recorded]
  constructor
  · intro records
    by_contra internal
    rw [Bool.not_eq_false] at internal
    have apart : ∀ e ∈ (d.tables.filter fun t => !isInternal t.name).map
        fun t => (t.name, rowsJson t.rows), t.name ≠ e.1 := by
      refine List.forall_mem_map.mpr fun u hu same => ?_
      have shown := (List.mem_filter.mp hu).2
      rw [← show t.name = u.name from same, internal] at shown
      cases shown
    have rows := records.rows
    rw [entries_withTables, Json.lookup_insertEntries_of_ne apart] at rows
    cases rows
  · intro shown
    have mem : t ∈ d.tables.filter fun t => !isInternal t.name :=
      List.mem_filter.mpr ⟨ht, by rw [shown]; rfl⟩
    exact ⟨lookup_withTables _ _ distinct mem, lookup_entries_withTables _ _ distinct mem⟩

theorem run_ofDatabase_of_orderly {c : Connection} (h : c.database.Orderly) :
    ofDatabase.run c = (.ok (recording c.database), c) :=
  run_ofDatabase fun t ht => by
    rw [filterMap_recordedObjects] at ht
    exact h.readable t (List.mem_filter.mp ht).1

/-- **A dump and the registry of a database can be made.  A table that is not the engine's own is
recorded with its columns and all of its rows, and registered with its columns if it can be
addressed, exactly if its name does not resemble those of the engine.** -/
theorem records_iff_not_resembles (options : RegistryOptions) (c : Connection)
    (h : c.database.Orderly) :
    ∃ doc r, ofDatabase.run c = (.ok doc, c) ∧
      Registry.ofDatabase options c.database = .ok r ∧
      ∀ t ∈ c.database.tables, isReserved t.name = false →
        (doc.Records t ↔ ¬Engine.Resembles t.name) ∧
        (Registry.isAddressable t = true →
          (Registry.outlineOf t ∈ r.outline ↔ ¬Engine.Resembles t.name)) := by
  obtain ⟨r, registered, outline⟩ := Registry.exists_ofDatabase options h
  refine ⟨recording c.database, r, run_ofDatabase_of_orderly h, registered, fun t ht user => ?_⟩
  have shown : isInternal t.name = false ↔ ¬Engine.Resembles t.name := by
    rw [← isInternal_iff_resembles user, Bool.not_eq_true]
  refine ⟨(records_recording_iff h ht).trans shown, fun addressable => ?_⟩
  rw [outline, ← shown, List.mem_map]
  constructor
  · rintro ⟨u, hu, same⟩
    have kept := (List.mem_filter.mp (List.mem_filter.mp hu).1).2
    rw [show u.name = t.name from congrArg Prod.fst same] at kept
    exact (Bool.not_eq_true' _).mp kept
  · intro visible
    refine ⟨t, List.mem_filter.mpr ⟨List.mem_filter.mpr ⟨ht, ?_⟩, addressable⟩, rfl⟩
    rw [visible]
    rfl

/-! ## Notes under several names -/

/-- A table of lines. -/
def lineTable (name : String) : Table where
  name := name
  parts :=
    { columns := [{ name := "line", declaredType := "TEXT", notNull := false, onNull := none
                    collation := .binary, default := none }]
      keys := [], references := [], checks := [], flaw := none }
  text := "CREATE TABLE " ++ Text.quoteIdent name ++ " (line TEXT"
  rest := ")"
  rows := [⟨1, [.text "a"]⟩, ⟨2, [.text "b"]⟩]

/-- An index of the lines of a table. -/
def lineIndex : Index where
  name := "note_line"
  table := "note"
  unique := false
  terms := [.column ⟨none, "line", false, 32⟩]
  condition := none
  text := "CREATE INDEX note_line ON note (line)"

/-- Notes under a name that can be addressed, under one that cannot, and under one that resembles
those of the engine. -/
def notes : Database :=
  ⟨[.table (lineTable "note"), .index lineIndex, .table (lineTable "my note"),
    .table (lineTable "SQLite3_notes")], []⟩

theorem tables_notes :
    notes.tables = [lineTable "note", lineTable "my note", lineTable "SQLite3_notes"] := rfl

theorem proper_lineTable {name : String} (plain : Sql.NulFree name) : (lineTable name).Proper where
  nonempty := nofun
  distinct := List.pairwise_singleton _ _
  name := plain
  columnNames := List.forall_mem_singleton.mpr (by decide)

theorem orderly_notes : notes.Orderly where
  readable := by
    have width : ∀ name, ∀ row ∈ (lineTable name).rows,
        row.cells.length = (lineTable name).columns.length := fun _ =>
      List.forall_mem_cons.mpr ⟨rfl, List.forall_mem_singleton.mpr rfl⟩
    rw [tables_notes]
    refine List.forall_mem_cons.mpr ⟨⟨proper_lineTable (by decide), rfl, width _⟩, ?_⟩
    refine List.forall_mem_cons.mpr ⟨⟨proper_lineTable (by decide), rfl, width _⟩, ?_⟩
    exact List.forall_mem_singleton.mpr ⟨proper_lineTable (by decide), rfl, width _⟩
  distinct := by decide
  indexed := by decide

/-- A connection to the notes. -/
def notebook : Connection :=
  .ofDatabase notes .epoch

theorem records_notebook :
    ∃ doc r, ofDatabase.run notebook = (.ok doc, notebook) ∧
      Registry.ofDatabase .standard notebook.database = .ok r ∧
      doc.Records (lineTable "note") ∧ ("note", ["line"]) ∈ r.outline ∧
      doc.Records (lineTable "my note") := by
  obtain ⟨doc, r, dumped, registered, each⟩ :=
    records_iff_not_resembles .standard notebook orderly_notes
  have tables : notebook.database.tables = _ := tables_notes
  rw [tables] at each
  have unlike : ∀ name, isInternal name = false → isReserved name = false →
      ¬Engine.Resembles name := fun name shown user => by
    rw [← isInternal_iff_resembles user, shown]
    exact Bool.false_ne_true
  have user : isReserved (lineTable "note").name = false := by decide
  have user' : isReserved (lineTable "my note").name = false := by decide
  have note := each (lineTable "note") List.mem_cons_self user
  have other := each (lineTable "my note") (List.mem_cons_of_mem _ List.mem_cons_self) user'
  have plain := unlike "note" (isInternal_eq_false (by decide)) user
  have addressable : Registry.isAddressable (lineTable "note") = true := by decide +kernel
  exact ⟨doc, r, dumped, registered, note.1.mpr plain, (note.2 addressable).mpr plain,
    other.1.mpr (unlike "my note" (isInternal_eq_false (by decide)) user')⟩

/-- **Notes that are the user's own are missing in the dump and in the registry.** -/
theorem not_records_notebook :
    ∃ t ∈ notebook.database.tables, isReserved t.name = false ∧
      Registry.isAddressable t = true ∧
      ((ofDatabase.run notebook).1.toOption.map fun doc =>
        (doc.tables.lookup t.name, (doc.data.lookup t.name).isSome)) = some (none, false) ∧
      ((Registry.ofDatabase .standard notebook.database).toOption.map fun r =>
        r.tableExists t.name) = some false := by
  have tables : notebook.database.tables = _ := tables_notes
  rw [tables]
  refine ⟨lineTable "SQLite3_notes", ?_, by decide +kernel, by decide +kernel, ?_, by decide +kernel⟩
  · exact List.mem_cons_of_mem _ (List.mem_cons_of_mem _ List.mem_cons_self)
  · rw [run_ofDatabase_of_orderly orderly_notes]
    decide +kernel

end Document

end FilterStore
