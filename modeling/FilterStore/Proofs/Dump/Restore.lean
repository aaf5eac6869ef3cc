import FilterStore.Proofs.Calendar.Date
import FilterStore.Proofs.Dump.Isolation
import FilterStore.Proofs.Dump.Remade
import Mathlib.Data.List.Perm.Basic

/-!
# Restoring what was dumped

A dump is restored in two steps.  Its statements make the objects again, and then the rows are
loaded into tables that are empty.  Triggers are there by then, so a trigger that waits for
insertions acts on rows that it has acted on before, and what it adds comes twice
(`Document.not_restores_watched`).

Without such triggers every table has its rows again, cell by cell and in their order, if only no
table is left out because of its name, and the rows fulfil the constraints under the numbers they
get (`Document.restores_of_untriggered`).
-/

namespace FilterStore

open Document (recording rowsJson)
open Engine (Connection Database Index Row SchemaObject Table Trigger Uniqueness isReserved)
open Sql (Column ObjectKind Parsed Token)
open Text (sameName)

/-- Every real number in a database is finite. -/
def Engine.Database.IsFinite (d : Database) : Prop :=
  ∀ t ∈ d.tables, ∀ row ∈ t.rows, ∀ cell ∈ row.cells, cell.IsFinite

instance (d : Database) : Decidable d.IsFinite :=
  inferInstanceAs (Decidable (∀ t ∈ d.tables, ∀ row ∈ t.rows, ∀ cell ∈ row.cells, cell.IsFinite))

namespace Restorable

variable {d e : Database} (h : Restorable d)

include h

/-- What is recorded of a table is enough for it. -/
theorem readable {t : Table} (ht : t ∈ recordedTables d) : Document.Readable d t := by
  obtain ⟨-, renewed, proper, sound⟩ := h.of_mem_recordedTables ht
  refine ⟨proper, h.table?_eq_some (mem_of_recorded (mem_recordedTables.mp ht)), fun row hr => ?_⟩
  rw [← t.rows_again] at hr
  rw [sound.width row hr, renewed.columns_length]

theorem loadable (remade : Remade d e) (finite : d.IsFinite) (untriggered : d.Untriggered)
    {t : Table} (ht : t ∈ recordedTables d) :
    Target.Loadable (recording d) e t.again.bare t.again.restored := by
  obtain ⟨unreserved, renewed, proper, sound⟩ := h.of_mem_recordedTables ht
  have recorded := Document.lookup_withTables
    { Document.empty with sql := .ofObjects (recordedObjects d) } _ h.distinctNames ht
  have apart := sameName_numberingName unreserved
  rw [← renewed.name] at apart recorded
  rw [← renewed.columns] at recorded
  exact {
    proper := (renewed.proper proper).withRows []
    empty := rfl
    found := remade.table?_eq_some ht
    unwatched := remade.unwatched h untriggered t.again.name
    apart
    recorded
    takes := by
      rw [remade.uniquenesses_eq]
      refine sound.takes fun row hr => ?_
      rw [t.rows_again] at hr
      exact finite t (recordedTables_sublist.mem ht) row hr }

end Restorable

namespace Document

/-- The rows that are recorded are those of the recorded tables, in some order. -/
theorem exists_data_recording {d : Database} (h : Restorable d) :
    ∃ ts : List Table, ts.Perm (recordedTables d) ∧
      (recording d).data = ts.map fun t => (t.name, rowsJson t.rows) := by
  have data := data_withTables { empty with sql := .ofObjects (recordedObjects d) }
    (recordedTables d) h.distinctNames fun _ _ _ he => absurd he List.not_mem_nil
  rw [show empty.data = [] from rfl, List.append_nil] at data
  obtain ⟨ts, split, perm⟩ := (congrFun₂ (List.eq_map_comp_perm _) _ _).mpr data
  exact ⟨ts, perm, split⟩

/-- Restoring changes no cell, so the rows are recorded as they are restored. -/
theorem rowsJson_restored (t : Table) : rowsJson t.restored = rowsJson t.rows := by
  have cells : ∀ rows, rowsJson rows = (rows.map Row.cells).map (List.map Cell.toJson) :=
    fun rows => (List.map_map ..).symm
  rw [cells, cells, Engine.Table.cells_restored]

/-- References are enforced again when the rows have been loaded. -/
theorem run_loadRows {d : Document} {c c' : Connection} {faults : List (String × RestoreFault)}
    (idle : c.transaction = none) (enforced : c.foreignKeys = true)
    (loaded : (Target.connection.load d d.data).run { c with foreignKeys := false } = (faults, c'))
    (idle' : c'.transaction = none) :
    d.loadRows.run c = (faults, { c' with foreignKeys := true }) := by
  have run : ∀ enforced (c : Connection), c.transaction = none →
      (enforceReferences enforced).run c = ((), { c with foreignKeys := enforced }) :=
    fun enforced c idle => by
      have unfolded : (enforceReferences enforced).run c =
        ((), if c.transaction.isNone then { c with foreignKeys := enforced } else c) := rfl
      rw [unfolded, idle]
      rfl
  have first : (enforceReferences false).run c = ((), { c with foreignKeys := false }) :=
    run false c idle
  have last : (enforceReferences true).run c' = ((), { c' with foreignKeys := true }) :=
    run true c' idle'
  have unfolded : d.loadRows.run c =
      (do
        let faults ← Target.connection.load d d.data
        if c.foreignKeys then enforceReferences true
        pure faults : StateM Connection (List (String × RestoreFault))).run
          ((enforceReferences false).run c).2 := rfl
  rw [unfolded, first, enforced]
  show (((Target.connection.load d d.data).run { c with foreignKeys := false }).1,
    ((enforceReferences true).run
      ((Target.connection.load d d.data).run { c with foreignKeys := false }).2).2) = _
  rw [loaded, last]

/-- Rows are loaded when the statements have been run. -/
theorem run_restore {d : Document} {c c₁ c₂ : Connection} {faults : List (String × RestoreFault)}
    (replayed : d.replay.run c = (.ok (), c₁)) (loaded : d.loadRows.run c₁ = (faults, c₂)) :
    d.restore.run c =
      (.ok { d with errors := faults.map fun (table, f) => (table, f.message) }, c₂) :=
  Restorer.run_restore (R := .connection) replayed loaded

/-- What is restored into an empty database. -/
theorem exists_run_restore_recording {d : Database} (h : Restorable d) (finite : d.IsFinite)
    (untriggered : d.Untriggered) (now : Calendar.Instant) :
    ∃ c', (recording d).restore.run (.ofDatabase .empty now) = (.ok (recording d), c') ∧
      ∀ t ∈ recordedTables d,
        c'.database.table? t.name = some { t.again with rows := t.again.restored } := by
  obtain ⟨c₁, statements, keeps, remade⟩ := h.exists_run_statements now
  have replayed : (recording d).replay.run (.ofDatabase .empty now) = _ :=
    Action.run_whole_of_ok rfl statements (keeps.isSome rfl) keeps.owedLater
  obtain ⟨ts, perm, data⟩ := exists_data_recording h
  have loadable : ∀ p ∈ ts.map fun t => (t.again.bare, t.again.restored),
      Target.Loadable (recording d) c₁.database p.1 p.2 := by
    rw [List.forall_mem_map]
    exact fun t ht => h.loadable remade finite untriggered (perm.mem_iff.mp ht)
  have distinct : (ts.map fun t => (t.again.bare, t.again.restored)).Pairwise fun p q =>
      sameName p.1.name q.1.name = false := by
    rw [List.pairwise_map]
    have apart : ts.Pairwise fun a b => sameName a.name b.name = false :=
      h.distinctTables.perm perm.symm fun {a b} apart =>
        (Text.sameName_comm b.name a.name).trans apart
    refine apart.imp_of_mem fun {t u} ht hu apart => ?_
    obtain ⟨-, first, -⟩ := h.of_mem_recordedTables (perm.mem_iff.mp ht)
    obtain ⟨-, second, -⟩ := h.of_mem_recordedTables (perm.mem_iff.mp hu)
    rw [← first.name, ← second.name] at apart
    exact apart
  obtain ⟨c₂, loaded, idle, -, found⟩ := Target.exists_run_load (d := recording d)
    (c := { c₁ with transaction := none, owedLater := 0, foreignKeys := false })
    ⟨rfl, rfl, rfl, keeps.readOnly⟩ loadable distinct
  have named : (ts.map fun t => (t.again.bare, t.again.restored)).map
      (fun p => (p.1.name, rowsJson p.2)) = (recording d).data := by
    rw [data, List.map_map]
    refine List.map_congr_left fun t ht => ?_
    obtain ⟨-, renewed, -⟩ := h.of_mem_recordedTables (perm.mem_iff.mp ht)
    show (t.again.name, rowsJson t.again.restored) = (t.name, rowsJson t.rows)
    rw [rowsJson_restored, t.rows_again, renewed.name]
  rw [named] at loaded
  have restored := run_restore replayed (run_loadRows rfl keeps.foreignKeys loaded idle.transaction)
  have unchanged : { recording d with errors := [] } = recording d := by
    have none : (recording d).errors = [] := errors_withTables ..
    rw [← none]
  rw [List.map_nil, unchanged] at restored
  refine ⟨_, restored, fun t ht => ?_⟩
  obtain ⟨-, renewed, -⟩ := h.of_mem_recordedTables ht
  have made := found (t.again.bare, t.again.restored) (List.mem_map_of_mem (perm.mem_iff.mpr ht))
  rw [← renewed.name]
  exact made

/-- A dump is restored into an empty database so that no table fails and every table has its columns
and its rows again, but for what the engine keeps to itself. -/
def Restores (c : Connection) (now : Calendar.Instant) : Prop :=
  ∃ d d' c', ofDatabase.run c = (.ok d, c) ∧
    d.restore.run (.ofDatabase .empty now) = (.ok d', c') ∧ d'.errors = [] ∧
    ∀ t, .table t ∈ c.database.objects → isReserved t.name = false →
      ∃ u, c'.database.table? t.name = some u ∧
        u.columns.map Column.name = t.columns.map Column.name ∧
        u.rows.map Row.cells = t.rows.map Row.cells

/-- What is dumped is restored if every real number is finite and no trigger waits for
insertions. -/
theorem restores_of_untriggered {c : Connection} (now : Calendar.Instant)
    (restorable : Restorable c.database) (finite : c.database.IsFinite)
    (untriggered : c.database.Untriggered) : Restores c now := by
  obtain ⟨c', restored, found⟩ := exists_run_restore_recording restorable finite untriggered now
  refine ⟨recording c.database, recording c.database, c',
    run_ofDatabase fun t ht => restorable.readable ht, restored, errors_withTables ..,
    fun t ht unreserved => ?_⟩
  have recorded := restorable.mem_recordedTables_of ht unreserved
  obtain ⟨-, renewed, -⟩ := restorable.of_mem_recordedTables recorded
  refine ⟨_, found t recorded, renewed.columns, ?_⟩
  exact (Engine.Table.cells_restored t.again).trans (congrArg _ t.rows_again)

/-! ## A shop -/

/-- A column of whole numbers. -/
def numberColumn (name : String) : Column :=
  { name, declaredType := "INTEGER", notNull := false, onNull := none, collation := .binary
    default := none }

/-- Items have a code and a positive price.  The place is where the condition names the price. -/
def itemTable (place : Nat) : Table where
  name := "item"
  parts :=
    { columns := [numberColumn "code", numberColumn "price"], keys := [], references := []
      checks := [⟨.binary .greater (.column ⟨none, "price", false, place⟩) (.literal (.integer 0)),
        "price > 0"⟩]
      flaw := none }
  text := "CREATE TABLE item (code INTEGER, price INTEGER CHECK (price > 0)"
  rest := ")"
  rows := [⟨2, [.integer 11, .integer 5]⟩, ⟨5, [.integer 12, .integer 9]⟩]

/-- A code is that of one item.  The place is where it is named. -/
def codeIndex (place : Nat) : Index where
  name := "item_code"
  table := "item"
  unique := true
  terms := [.column ⟨none, "code", false, place⟩]
  condition := none
  text := "CREATE UNIQUE INDEX item_code ON item (code)"

/-- With an item all of its code go.  The place is where that code is named first. -/
def itemTrigger (place : Nat) : Trigger where
  name := "item_gone"
  table := "item"
  time := .after
  event := .delete
  condition := .literal (.integer 1)
  body := [.delete "item" (.binary .equal (.column ⟨none, "code", false, place⟩)
    (.column ⟨some "OLD", "code", false, place + 7⟩))]
  text := "CREATE TRIGGER item_gone AFTER DELETE ON item BEGIN " ++
    "DELETE FROM item WHERE code = OLD.code; END"

theorem tokens_itemTable :
    Token.ofText (Replay.tolerant ((itemTable 54).text ++ (itemTable 54).rest)) =
    [⟨.word, "", "CREATE", 0⟩, ⟨.word, " ", "TABLE", 7⟩, ⟨.word, " ", "IF", 13⟩,
      ⟨.word, " ", "NOT", 16⟩, ⟨.word, " ", "EXISTS", 20⟩, ⟨.word, " ", "item", 27⟩,
      ⟨.symbol, " ", "(", 32⟩, ⟨.word, "", "code", 33⟩, ⟨.word, " ", "INTEGER", 38⟩,
      ⟨.symbol, "", ",", 45⟩, ⟨.word, " ", "price", 47⟩, ⟨.word, " ", "INTEGER", 53⟩,
      ⟨.word, " ", "CHECK", 61⟩, ⟨.symbol, " ", "(", 67⟩, ⟨.word, "", "price", 68⟩,
      ⟨.symbol, " ", ">", 74⟩, ⟨.integer, " ", "0", 76⟩, ⟨.symbol, "", ")", 77⟩,
      ⟨.symbol, "", ")", 78⟩, ⟨.finish, "", "", 79⟩] := by
  decide +kernel

theorem tokens_codeIndex : Token.ofText (Replay.tolerant (codeIndex 39).text) =
    [⟨.word, "", "CREATE", 0⟩, ⟨.word, " ", "UNIQUE", 7⟩, ⟨.word, " ", "INDEX", 14⟩,
      ⟨.word, " ", "IF", 20⟩, ⟨.word, " ", "NOT", 23⟩, ⟨.word, " ", "EXISTS", 27⟩,
      ⟨.word, " ", "item_code", 34⟩, ⟨.word, " ", "ON", 44⟩, ⟨.word, " ", "item", 47⟩,
      ⟨.symbol, " ", "(", 52⟩, ⟨.word, "", "code", 53⟩, ⟨.symbol, "", ")", 57⟩,
      ⟨.finish, "", "", 58⟩] := by
  decide +kernel

theorem tokens_itemTrigger : Token.ofText (Replay.tolerant (itemTrigger 75).text) =
    [⟨.word, "", "CREATE", 0⟩, ⟨.word, " ", "TRIGGER", 7⟩, ⟨.word, " ", "IF", 15⟩,
      ⟨.word, " ", "NOT", 18⟩, ⟨.word, " ", "EXISTS", 22⟩, ⟨.word, " ", "item_gone", 29⟩,
      ⟨.word, " ", "AFTER", 39⟩, ⟨.word, " ", "DELETE", 45⟩, ⟨.word, " ", "ON", 52⟩,
      ⟨.word, " ", "item", 55⟩, ⟨.word, " ", "BEGIN", 60⟩, ⟨.word, " ", "DELETE", 66⟩,
      ⟨.word, " ", "FROM", 73⟩, ⟨.word, " ", "item", 78⟩, ⟨.word, " ", "WHERE", 83⟩,
      ⟨.word, " ", "code", 89⟩, ⟨.symbol, " ", "=", 94⟩, ⟨.word, " ", "OLD", 96⟩,
      ⟨.symbol, "", ".", 99⟩, ⟨.word, "", "code", 100⟩, ⟨.symbol, "", ";", 104⟩,
      ⟨.word, " ", "END", 106⟩, ⟨.finish, "", "", 109⟩] := by
  decide +kernel

set_option maxRecDepth 2000 in
theorem parsed_itemTable :
    Parsed.ofText (Replay.tolerant ((itemTable 54).text ++ (itemTable 54).rest)) =
      .ok (some ⟨.define (.createTable ⟨false, true, "item", "item", 27⟩ (itemTable 68).parts
        (itemTable 54).text (itemTable 54).rest), 0, ""⟩) := by
  unfold Parsed.ofText
  rw [tokens_itemTable]
  rfl

set_option maxRecDepth 2000 in
theorem parsed_codeIndex :
    Parsed.ofText (Replay.tolerant (codeIndex 39).text) =
      .ok (some ⟨.define (.createIndex true true "item_code" "item" (codeIndex 53).terms none
        (codeIndex 39).text), 0, ""⟩) := by
  unfold Parsed.ofText
  rw [tokens_codeIndex]
  rfl

set_option maxRecDepth 2000 in
theorem parsed_itemTrigger :
    Parsed.ofText (Replay.tolerant (itemTrigger 75).text) =
      .ok (some ⟨.define (.createTrigger ⟨false, true, "item_gone", "item_gone", 29⟩ "item" .after
        .delete (itemTrigger 75).condition (itemTrigger 89).body (itemTrigger 75).text), 0,
        ""⟩) := by
  unfold Parsed.ofText
  rw [tokens_itemTrigger]
  rfl

/-- A shop with two items. -/
def shop : Database :=
  ⟨[.table (itemTable 54), .index (codeIndex 39), .trigger (itemTrigger 75)], []⟩

theorem again_itemTable : (itemTable 54).again = itemTable 68 :=
  Table.again_of_read parsed_itemTable

theorem again_codeIndex : (codeIndex 39).again [itemTable 68] = codeIndex 53 :=
  Index.again_of_read (t := itemTable 68) parsed_codeIndex rfl

theorem again_itemTrigger : (itemTrigger 75).again = itemTrigger 89 :=
  Trigger.again_of_read parsed_itemTrigger

theorem recordedObjects_shop : recordedObjects shop = shop.objects :=
  recordedObjects_eq_objects (by decide)

theorem tablesAgain_shop : tablesAgain shop = [itemTable 68] := by
  unfold tablesAgain recordedTables
  rw [recordedObjects_shop, ← again_itemTable]
  rfl

theorem indexesAgain_shop : indexesAgain shop = [codeIndex 53] := by
  unfold indexesAgain recordedIndexes
  rw [recordedObjects_shop, tablesAgain_shop, ← again_codeIndex]
  rfl

theorem uniquenesses_shop :
    shop.again.uniquenesses (itemTable 68) = [(itemTable 68).indexUniqueness (codeIndex 53)] := by
  unfold Database.uniquenesses
  rw [indexesOf_again, indexesAgain_shop]
  rfl

/-- The numbers of the rows stand in no column. -/
theorem rowIdColumn?_itemTable : (itemTable 68).rowIdColumn? = none := rfl

/-- So they are counted anew. -/
theorem restored_itemTable : (itemTable 68).restored =
    [⟨1, [.integer 11, .integer 5]⟩, ⟨2, [.integer 12, .integer 9]⟩] := rfl

theorem sound_itemTable : (itemTable 68).Sound (shop.again.uniquenesses (itemTable 68)) where
  width := by decide
  leaning := by
    refine List.forall_mem_cons.mpr ⟨?_, List.forall_mem_singleton.mpr ?_⟩ <;>
      exact List.forall_mem_cons.mpr ⟨rfl, List.forall_mem_singleton.mpr rfl⟩
  plain := by
    refine List.forall_mem_cons.mpr ⟨?_, List.forall_mem_singleton.mpr ?_⟩ <;>
      exact List.forall_mem_cons.mpr ⟨rfl, List.forall_mem_singleton.mpr rfl⟩
  present := by decide
  numbered _ _ _ place := by
    rw [rowIdColumn?_itemTable] at place
    cases place
  sorted := by decide
  few := by decide
  default _ _ place := by
    rw [rowIdColumn?_itemTable] at place
    cases place
  holds := by
    rw [restored_itemTable]
    intro row hr w check hc
    obtain rfl := List.mem_singleton.mp hc
    simp only [List.mem_cons, List.not_mem_nil, or_false] at hr
    rcases hr with rfl | rfl <;> rfl
  alone := by
    rw [restored_itemTable, uniquenesses_shop]
    intro before row after split w u hu
    obtain rfl := List.mem_singleton.mp hu
    rcases before with _ | ⟨first, _ | ⟨second, rest⟩⟩
    · cases split
      rfl
    · cases split
      rfl
    · simp at split

theorem mem_shop {o : SchemaObject} (h : o ∈ shop.objects) :
    o = .table (itemTable 54) ∨ o = .index (codeIndex 39) ∨ o = .trigger (itemTrigger 75) := by
  simpa [shop] using h

theorem table_of_mem_shop {t : Table} (h : .table t ∈ shop.objects) : t = itemTable 54 := by
  rcases mem_shop h with same | same | same <;> cases same
  rfl

theorem renewed_itemTable : (itemTable 54).Renewed := by
  constructor
  case described =>
    rw [again_itemTable]
    refine ⟨⟨_, parsed_itemTable, rfl, rfl⟩, rfl, fun w setting check hc => ?_⟩
    obtain rfl := List.mem_singleton.mp hc
    rfl
  case name =>
    rw [again_itemTable]
    rfl
  case columns =>
    rw [again_itemTable]
    rfl

theorem renewed_codeIndex : (codeIndex 39).Renewed (tablesAgain shop) (itemTable 54) := by
  constructor
  case described =>
    rw [tablesAgain_shop, again_codeIndex, again_itemTable]
    exact ⟨⟨_, _, _, parsed_codeIndex, rfl, rfl, fun _ => rfl⟩, rfl⟩
  case name =>
    rw [tablesAgain_shop, again_codeIndex]
    rfl

theorem renewed_itemTrigger : (itemTrigger 75).Renewed := by
  constructor
  case described =>
    rw [again_itemTrigger]
    exact ⟨⟨_, parsed_itemTrigger, rfl, rfl⟩, nofun, rfl⟩
  all_goals
    rw [again_itemTrigger]
    rfl

theorem proper_itemTable : (itemTable 54).Proper where
  nonempty := nofun
  distinct := by decide
  name := by decide
  columnNames := by decide

theorem restorable_shop : Restorable shop where
  viewless := by decide
  distinct := by decide
  permanent := rfl
  complete t ht internal := by
    obtain rfl := table_of_mem_shop ht
    have shown : isInternal (itemTable 54).name = false := isInternal_eq_false (by decide)
    rw [shown] at internal
    cases internal
  tables t ht _ := by
    obtain rfl := table_of_mem_shop ht
    refine ⟨renewed_itemTable, proper_itemTable, ?_⟩
    rw [again_itemTable]
    exact sound_itemTable
  triggers g hg := by
    have same : g = itemTrigger 75 := by
      rcases mem_shop hg with same | same | same <;> cases same
      rfl
    subst same
    exact ⟨renewed_itemTrigger, itemTable 54, List.mem_cons_self, by decide, by decide⟩
  indexes i hi := by
    have same : i = codeIndex 39 := by
      rcases mem_shop hi with same | same | same <;> cases same
      rfl
    subst same
    exact ⟨itemTable 54, List.mem_cons_self, by decide, renewed_codeIndex⟩

/-- The first second of 1970. -/
def epoch : Calendar.Instant := .epoch

/-- A shop with two items is restored. -/
theorem restores_shop :
    Restorable shop ∧ shop.IsFinite ∧ shop.Untriggered ∧ Restores (.ofDatabase shop epoch) epoch :=
  have finite : shop.IsFinite := by decide
  have untriggered : shop.Untriggered := by decide
  ⟨restorable_shop, finite, untriggered,
    restores_of_untriggered (c := .ofDatabase shop epoch) epoch restorable_shop finite untriggered⟩

/-! ## A table that is watched -/

/-- Whatever is put into one table is noted in another. -/
def watchedSql : List String :=
  ["CREATE TABLE entry (body TEXT)", "CREATE TABLE log (note TEXT)",
    "CREATE TRIGGER seen AFTER INSERT ON entry BEGIN INSERT INTO log VALUES (NEW.body); END",
    "INSERT INTO entry VALUES ('a')"]

/-- A database in which an entry has been noted. -/
def watched : Connection :=
  ((watchedSql.forM Action.batch).run (.ofDatabase .empty epoch)).2

/-- What was noted is noted again when the entry is restored. -/
theorem noted_watched :
    (∀ o ∈ watched.database.objects, o.kind ≠ .view) ∧ watched.database.IsFinite ∧
      watched.database.tables.map (fun t => (t.name, t.rows.length)) = [("entry", 1), ("log", 1)] ∧
      ((ofDatabase.run watched).1.toOption.map fun d =>
        ((d.restore.run (.ofDatabase .empty epoch)).2.database.table? "log").map fun t =>
          t.rows.length) = some (some 2) := by
  decide +kernel

/-- Where a trigger waits for insertions, restoring can add rows that there were not. -/
theorem not_restores_watched :
    (∀ o ∈ watched.database.objects, o.kind ≠ .view) ∧ watched.database.IsFinite ∧
      ¬Restores watched epoch := by
  obtain ⟨viewless, finite, listed, noted⟩ := noted_watched
  refine ⟨viewless, finite, ?_⟩
  rintro ⟨d, d', c', dumped, restored, -, tables⟩
  have mem : ("log", 1) ∈ watched.database.tables.map fun t => (t.name, t.rows.length) := by
    rw [listed]
    decide
  obtain ⟨t, ht, same⟩ := List.mem_map.mp mem
  obtain ⟨name, length⟩ := Prod.mk.inj same
  obtain ⟨o, ho, table⟩ := List.mem_filterMap.mp ht
  rw [SchemaObject.table?_eq_some.mp table] at ho
  obtain ⟨u, found, -, cells⟩ := tables t ho (by rw [name]; decide)
  have rows := congrArg List.length cells
  rw [List.length_map, List.length_map, length] at rows
  rw [dumped] at noted
  simp only [toOption_ok, Option.map_some, restored, ← name, found, rows] at noted
  cases noted

end Document

end FilterStore
