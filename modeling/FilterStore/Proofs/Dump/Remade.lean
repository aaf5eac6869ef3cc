import FilterStore.Proofs.Dump.Replay
import FilterStore.Proofs.Dump.Rows
import Mathlib.Data.List.Pairwise

/-!
# What the statements of a dump make

An object that is made again is not quite the same: expressions know where they are written, and the
phrase that asks not to mind moves them.  So what is asked of the objects of a database is asked of
those that their statements make (`Engine.Table.again` and its like).

The statements of a database that can be restored (`Restorable`) make a schema, and in an empty
database they leave the tables without rows, the triggers and the indexes (`Remade`).  With them
come the constraints that the rows have fulfilled.
-/

namespace FilterStore

open Document (recording)
open Engine (Connection Database Index SchemaObject Table Trigger isReserved)
open Sql (Column ObjectKind Parsed)
open Text (sameName)

/-! ## What is recorded -/

def recordedTables (d : Database) : List Table :=
  (recordedObjects d).filterMap SchemaObject.table?

def recordedTriggers (d : Database) : List Trigger :=
  (recordedObjects d).filterMap SchemaObject.trigger?

def recordedIndexes (d : Database) : List Index :=
  (recordedObjects d).filterMap SchemaObject.index?

theorem Engine.SchemaObject.table?_eq_some {o : SchemaObject} {t : Table} :
    o.table? = some t ↔ o = .table t := by
  cases o <;> simp [SchemaObject.table?]

theorem Engine.SchemaObject.trigger?_eq_some {o : SchemaObject} {g : Trigger} :
    o.trigger? = some g ↔ o = .trigger g := by
  cases o <;> simp [SchemaObject.trigger?]

theorem Engine.SchemaObject.index?_eq_some {o : SchemaObject} {i : Index} :
    o.index? = some i ↔ o = .index i := by
  cases o <;> simp [SchemaObject.index?]

section Recorded

variable {d : Database}

theorem mem_recordedTables {t : Table} :
    t ∈ recordedTables d ↔ SchemaObject.table t ∈ recordedObjects d := by
  simp [recordedTables, SchemaObject.table?_eq_some]

theorem mem_recordedTriggers {g : Trigger} :
    g ∈ recordedTriggers d ↔ SchemaObject.trigger g ∈ recordedObjects d := by
  simp [recordedTriggers, SchemaObject.trigger?_eq_some]

theorem mem_recordedIndexes {i : Index} :
    i ∈ recordedIndexes d ↔ SchemaObject.index i ∈ recordedObjects d := by
  simp [recordedIndexes, SchemaObject.index?_eq_some]

theorem recordedObjects_sublist : (recordedObjects d).Sublist d.objects := List.filter_sublist

theorem recordedTables_sublist : (recordedTables d).Sublist d.tables :=
  recordedObjects_sublist.filterMap _

theorem mem_of_recorded {o : SchemaObject} (h : o ∈ recordedObjects d) : o ∈ d.objects :=
  recordedObjects_sublist.mem h

end Recorded

/-- The statements of a kind are those of its objects. -/
theorem statementsOf_eq {α : Type} {kind : ObjectKind} (part : SchemaObject → Option α)
    (sql : α → String)
    (h : ∀ o, (part o).map sql = if o.kind = kind then some o.sql else none)
    (os : List SchemaObject) : statementsOf kind os = (os.filterMap part).map sql := by
  have statement : statementsOf kind os =
      os.filterMap fun o => if o.kind = kind then some o.sql else none := by
    induction os with
    | nil => rfl
    | cons o os ih =>
      unfold statementsOf at ih ⊢
      by_cases same : o.kind = kind <;> simp [same, ih]
  rw [statement, List.map_filterMap]
  exact List.filterMap_congr fun o _ => (h o).symm

/-! ## What is made again -/

/-- The table that its statement makes, with the rows that it has. -/
@[irreducible] def Engine.Table.again (t : Table) : Table :=
  match Parsed.ofText (Replay.tolerant (t.text ++ t.rest)) with
  | .ok (some ⟨.define (.createTable n parts text rest), _, _⟩) =>
    ⟨n.name, parts, text, rest, t.rows⟩
  | _ => t

/-- The trigger that its statement makes. -/
@[irreducible] def Engine.Trigger.again (g : Trigger) : Trigger :=
  match Parsed.ofText (Replay.tolerant g.text) with
  | .ok (some ⟨.define (.createTrigger n table time event condition body text), _, _⟩) =>
    ⟨n.name, table, time, event, condition, body, text⟩
  | _ => g

/-- The index that its statement makes where there are tables. -/
@[irreducible] def Engine.Index.again (ts : List Table) (i : Index) : Index :=
  match Parsed.ofText (Replay.tolerant i.text) with
  | .ok (some ⟨.define (.createIndex _ unique name table terms condition text), _, _⟩) =>
    match ts.find? fun t => sameName t.name table with
    | some t => ⟨name, t.name, unique, terms.map t.indexTerm, condition, text⟩
    | none => i
  | _ => i

/-- The tables that the statements of a dump make. -/
def tablesAgain (d : Database) : List Table := (recordedTables d).map Table.again

/-- The triggers that the statements of a dump make. -/
def triggersAgain (d : Database) : List Trigger := (recordedTriggers d).map Trigger.again

/-- The indexes that the statements of a dump make. -/
def indexesAgain (d : Database) : List Index :=
  (recordedIndexes d).map (Index.again (tablesAgain d))

/-- The database that the statements of a dump make, with the rows that there are. -/
def Engine.Database.again (d : Database) : Database where
  objects := (tablesAgain d).map .table ++ (triggersAgain d).map .trigger ++
    (indexesAgain d).map .index
  temporary := []

/-- The statements of a dump make a table again that has the same columns. -/
structure Engine.Table.Renewed (t : Table) : Prop where
  described : t.again.Described (Replay.tolerant (t.text ++ t.rest))
  name : t.again.name = t.name
  columns : t.again.columns.map Column.name = t.columns.map Column.name

theorem Engine.Table.again_of_read {t : Table} {n parts text rest parameters behind}
    (read : Parsed.ofText (Replay.tolerant (t.text ++ t.rest)) =
      .ok (some ⟨.define (.createTable n parts text rest), parameters, behind⟩)) :
    t.again = ⟨n.name, parts, text, rest, t.rows⟩ := by
  unfold Table.again
  rw [read]

theorem Engine.Trigger.again_of_read {g : Trigger}
    {n table time event condition body text parameters behind}
    (read : Parsed.ofText (Replay.tolerant g.text) =
      .ok (some ⟨.define (.createTrigger n table time event condition body text), parameters,
        behind⟩)) :
    g.again = ⟨n.name, table, time, event, condition, body, text⟩ := by
  unfold Trigger.again
  rw [read]

theorem Engine.Index.again_of_read {i : Index} {ts : List Table} {t : Table}
    {tolerant unique name table terms condition text parameters behind}
    (read : Parsed.ofText (Replay.tolerant i.text) =
      .ok (some ⟨.define (.createIndex tolerant unique name table terms condition text),
        parameters, behind⟩))
    (found : ts.find? (fun t => sameName t.name table) = some t) :
    i.again ts = ⟨name, t.name, unique, terms.map t.indexTerm, condition, text⟩ := by
  unfold Index.again
  simp only [read, found]

theorem Engine.Table.rows_again (t : Table) : t.again.rows = t.rows := by
  unfold Table.again
  split <;> rfl

namespace Engine.Table.Renewed

variable {t : Table} (h : t.Renewed)

include h

theorem columns_length : t.again.columns.length = t.columns.length := by
  have names := congrArg List.length h.columns
  rwa [List.length_map, List.length_map] at names

/-- What a definition sees to is seen to again. -/
theorem proper (proper : t.Proper) : t.again.Proper where
  nonempty empty := proper.nonempty (List.length_eq_zero_iff.mp (by
    rw [← h.columns_length, empty, List.length_nil]))
  distinct := by
    have named := proper.distinct
    rw [← List.pairwise_map (f := Column.name) (R := fun a b => sameName a b = false)] at named ⊢
    rwa [h.columns]
  name := h.name.symm ▸ proper.name
  columnNames := by
    have named := proper.columnNames
    rw [← List.forall_mem_map (f := Column.name) (P := Sql.NulFree)] at named ⊢
    rwa [h.columns]

end Engine.Table.Renewed

/-- The statements of a dump make a trigger again that waits for the same. -/
structure Engine.Trigger.Renewed (g : Trigger) : Prop where
  described : g.again.Described (Replay.tolerant g.text)
  name : g.again.name = g.name
  table : g.again.table = g.table
  event : g.again.event = g.event

/-- The statements of a dump make an index of a table again. -/
structure Engine.Index.Renewed (ts : List Table) (t : Table) (i : Index) : Prop where
  described : (i.again ts).Described (Replay.tolerant i.text) t.again
  name : (i.again ts).name = i.name

/-! ## Databases that can be restored -/

/-- A database whose objects can be made again, and whose rows fit into them. -/
structure Restorable (d : Database) : Prop where
  viewless : ∀ o ∈ d.objects, o.kind ≠ .view
  /-- Triggers have a space of names of their own. -/
  distinct : d.objects.Pairwise fun a b =>
    (a.kind = .trigger ↔ b.kind = .trigger) → sameName a.name b.name = false
  permanent : d.temporary = []
  /-- No table is left out but that of the numbers. -/
  complete : ∀ t, .table t ∈ d.objects → isInternal t.name = true → isReserved t.name = true
  tables : ∀ t, .table t ∈ d.objects → isReserved t.name = false →
    t.Renewed ∧ t.Proper ∧ t.again.Sound (d.again.uniquenesses t.again)
  triggers : ∀ g, .trigger g ∈ d.objects → g.Renewed ∧
    ∃ t, .table t ∈ d.objects ∧ isReserved t.name = false ∧ sameName t.name g.table
  indexes : ∀ i, .index i ∈ d.objects →
    ∃ t, .table t ∈ d.objects ∧ isReserved t.name = false ∧ i.Renewed (tablesAgain d) t

namespace Restorable

variable {d : Database} (h : Restorable d)

include h

theorem mem_recordedTables_of {t : Table} (ht : .table t ∈ d.objects)
    (unreserved : isReserved t.name = false) : t ∈ recordedTables d := by
  refine mem_recordedTables.mpr (List.mem_filter.mpr ⟨ht, ?_⟩)
  have shown : isInternal t.name = false := Bool.eq_false_iff.mpr fun internal =>
    Bool.false_ne_true (unreserved.symm.trans (h.complete t ht internal))
  show (!isInternal t.name) = true
  rw [shown]
  rfl

theorem distinct_filterMap {α : Type} (make : α → SchemaObject) (name : α → String)
    {part : SchemaObject → Option α} (parts : ∀ {o a}, part o = some a ↔ o = make a)
    (names : ∀ a, (make a).name = name a) {kind : ObjectKind} (kinds : ∀ a, (make a).kind = kind) :
    (d.objects.filterMap part).Pairwise fun a b => sameName (name a) (name b) = false := by
  refine h.distinct.filterMap part fun o o' apart a ha b hb => ?_
  rw [parts.mp ha, parts.mp hb, kinds, kinds, names, names] at apart
  exact apart Iff.rfl

theorem pairwise_tables : d.tables.Pairwise fun a b => sameName a.name b.name = false :=
  h.distinct_filterMap .table Table.name SchemaObject.table?_eq_some (fun _ => rfl) fun _ => rfl

theorem distinctTables :
    (recordedTables d).Pairwise fun a b => sameName a.name b.name = false :=
  h.pairwise_tables.sublist recordedTables_sublist

theorem distinctTriggers :
    (recordedTriggers d).Pairwise fun a b => sameName a.name b.name = false :=
  (h.distinct_filterMap .trigger Trigger.name SchemaObject.trigger?_eq_some (fun _ => rfl)
    fun _ => rfl).sublist (recordedObjects_sublist.filterMap _)

theorem distinctIndexes :
    (recordedIndexes d).Pairwise fun a b => sameName a.name b.name = false :=
  (h.distinct_filterMap .index Index.name SchemaObject.index?_eq_some (fun _ => rfl)
    fun _ => rfl).sublist (recordedObjects_sublist.filterMap _)

theorem distinctNames : (recordedTables d).Pairwise fun a b => a.name ≠ b.name :=
  h.distinctTables.imp fun apart same => by
    rw [same, Text.sameName_refl] at apart
    cases apart

/-- Every table is found under its name. -/
theorem table?_eq_some {t : Table} (ht : .table t ∈ d.objects) : d.table? t.name = some t := by
  have mem : t ∈ d.tables := List.mem_filterMap.mpr ⟨_, ht, rfl⟩
  obtain ⟨before, after, split⟩ := List.append_of_mem mem
  have other := Schema.others h.pairwise_tables split
  have missed : before.find? (fun u => sameName u.name t.name) = none :=
    List.find?_eq_none.mpr fun u hu same => Bool.false_ne_true ((other u hu).symm.trans same)
  have tables : d.all.filterMap SchemaObject.table? = d.tables := by
    unfold Database.all
    rw [h.permanent, List.nil_append]
    rfl
  unfold Database.table?
  rw [tables, split, List.find?_append, missed, Option.none_or]
  exact List.find?_cons_of_pos (Text.sameName_refl t.name)

/-- A table and an index do not share a name. -/
theorem apart {t : Table} {i : Index} (ht : .table t ∈ recordedObjects d)
    (hi : .index i ∈ recordedObjects d) : sameName t.name i.name = false := by
  have symmetric : Std.Symm fun a b : SchemaObject =>
      (a.kind = .trigger ↔ b.kind = .trigger) → sameName a.name b.name = false :=
    ⟨fun a b apart same => (Text.sameName_comm _ _).trans (apart same.symm)⟩
  have differ : SchemaObject.table t ≠ .index i := nofun
  have kinds : (SchemaObject.table t).kind = .trigger ↔ (SchemaObject.index i).kind = .trigger :=
    ⟨nofun, nofun⟩
  have named := h.distinct.forall (mem_of_recorded ht) (mem_of_recorded hi) differ kinds
  exact named

/-- A table that is recorded is not reserved, and it is made again. -/
theorem of_mem_recordedTables {t : Table} (ht : t ∈ recordedTables d) :
    isReserved t.name = false ∧ t.Renewed ∧ t.Proper ∧
      t.again.Sound (d.again.uniquenesses t.again) := by
  have mem := mem_recordedTables.mp ht
  have unreserved := isReserved_of_recorded (o := .table t) mem
  exact ⟨unreserved, h.tables t (mem_of_recorded mem) unreserved⟩

theorem of_mem_recordedTriggers {g : Trigger} (hg : g ∈ recordedTriggers d) :
    isReserved g.name = false ∧ g.Renewed ∧
      ∃ t ∈ recordedTables d, sameName t.name g.table := by
  have mem := mem_recordedTriggers.mp hg
  obtain ⟨renewed, t, ht, unreserved, owner⟩ := h.triggers g (mem_of_recorded mem)
  exact ⟨isReserved_of_recorded (o := .trigger g) mem, renewed, t,
    h.mem_recordedTables_of ht unreserved, owner⟩

theorem of_mem_recordedIndexes {i : Index} (hi : i ∈ recordedIndexes d) :
    isReserved i.name = false ∧
      ∃ t ∈ recordedTables d, i.Renewed (tablesAgain d) t := by
  have mem := mem_recordedIndexes.mp hi
  obtain ⟨t, ht, unreserved, renewed⟩ := h.indexes i (mem_of_recorded mem)
  exact ⟨isReserved_of_recorded (o := .index i) mem, t, h.mem_recordedTables_of ht unreserved,
    renewed⟩

end Restorable

/-- The statements of tables, as they are run, with what they make. -/
def tableStatements (d : Database) : List (String × Table) :=
  (recordedTables d).map fun t => (Replay.tolerant (t.text ++ t.rest), t.again)

def triggerStatements (d : Database) : List (String × Trigger) :=
  (recordedTriggers d).map fun g => (Replay.tolerant g.text, g.again)

def indexStatements (d : Database) : List (String × Index) :=
  (recordedIndexes d).map fun i => (Replay.tolerant i.text, i.again (tablesAgain d))

theorem mem_tableStatements {d : Database} {t : Table} (ht : t ∈ recordedTables d) :
    (Replay.tolerant (t.text ++ t.rest), t.again) ∈ tableStatements d :=
  List.mem_map.mpr ⟨t, ht, rfl⟩

theorem pairwise_statements {α : Type} {xs : List α} {name : α → String} {again : α → α}
    (distinct : xs.Pairwise fun a b => sameName (name a) (name b) = false)
    (names : ∀ x ∈ xs, name (again x) = name x) (sql : α → String) :
    (xs.map fun x => (sql x, again x)).Pairwise fun p q =>
      sameName (name p.2) (name q.2) = false := by
  rw [List.pairwise_map]
  refine distinct.imp_of_mem fun {a b} ha hb apart => ?_
  dsimp only
  rwa [names a ha, names b hb]

/-- The statements are run table by table, then trigger by trigger, then index by index. -/
theorem replayOrder_recording {d : Database} (viewless : ∀ o ∈ d.objects, o.kind ≠ .view) :
    (recording d).sql.replayOrder.map Replay.tolerant =
      (tableStatements d).map Prod.fst ++ (triggerStatements d).map Prod.fst ++
        (indexStatements d).map Prod.fst := by
  have sql : (recording d).sql = .ofObjects (recordedObjects d) := Document.sql_withTables ..
  have views : statementsOf .view (recordedObjects d) = [] := by
    unfold statementsOf
    rw [List.filter_eq_nil_iff.mpr, List.map_nil]
    exact fun o ho => by simpa using viewless o (mem_of_recorded ho)
  have tables : statementsOf .table (recordedObjects d) = _ :=
    statementsOf_eq SchemaObject.table? (fun t => t.text ++ t.rest)
      (fun o => by cases o <;> rfl) _
  have triggers : statementsOf .trigger (recordedObjects d) = _ :=
    statementsOf_eq SchemaObject.trigger? Trigger.text (fun o => by cases o <;> rfl) _
  have indexes : statementsOf .index (recordedObjects d) = _ :=
    statementsOf_eq SchemaObject.index? Index.text (fun o => by cases o <;> rfl) _
  rw [sql]
  unfold DumpSql.replayOrder DumpSql.ofObjects tableStatements triggerStatements indexStatements
  simp only [views, List.append_nil, tables, triggers, indexes, List.map_append, List.map_map]
  rfl

namespace Restorable

variable {d : Database} (h : Restorable d)

include h

theorem described_tableStatements :
    ∀ p ∈ tableStatements d, p.2.Described p.1 ∧ isReserved p.2.name = false := by
  unfold tableStatements
  rw [List.forall_mem_map]
  intro t ht
  dsimp only
  obtain ⟨unreserved, renewed, -⟩ := h.of_mem_recordedTables ht
  rw [← renewed.name] at unreserved
  exact ⟨renewed.described, unreserved⟩

theorem described_triggerStatements :
    ∀ p ∈ triggerStatements d, p.2.Described p.1 ∧ isReserved p.2.name = false ∧
      ∃ q ∈ tableStatements d, sameName q.2.name p.2.table := by
  unfold triggerStatements
  rw [List.forall_mem_map]
  intro g hg
  dsimp only
  obtain ⟨unreserved, renewed, t, ht, owner⟩ := h.of_mem_recordedTriggers hg
  obtain ⟨-, table, -⟩ := h.of_mem_recordedTables ht
  rw [← renewed.name] at unreserved
  rw [← table.name, ← renewed.table] at owner
  exact ⟨renewed.described, unreserved, _, mem_tableStatements ht, owner⟩

theorem described_indexStatements :
    ∀ p ∈ indexStatements d, isReserved p.2.name = false ∧
      ∃ q ∈ tableStatements d, p.2.Described p.1 q.2 := by
  unfold indexStatements
  rw [List.forall_mem_map]
  intro i hi
  dsimp only
  obtain ⟨unreserved, t, ht, renewed⟩ := h.of_mem_recordedIndexes hi
  rw [← renewed.name] at unreserved
  refine ⟨unreserved, _, mem_tableStatements ht, ?_⟩
  dsimp only
  exact renewed.described

theorem apart_statements :
    ∀ p ∈ tableStatements d, ∀ q ∈ indexStatements d, sameName p.2.name q.2.name = false := by
  unfold tableStatements indexStatements
  rw [List.forall_mem_map]
  intro t ht
  rw [List.forall_mem_map]
  intro i hi
  dsimp only
  obtain ⟨-, table, -⟩ := h.of_mem_recordedTables ht
  obtain ⟨-, _, -, index⟩ := h.of_mem_recordedIndexes hi
  have apart := h.apart (mem_recordedTables.mp ht) (mem_recordedIndexes.mp hi)
  rwa [← table.name, ← index.name] at apart

/-- The statements of a database that can be restored describe what they make. -/
theorem schema : Schema (tableStatements d) (triggerStatements d) (indexStatements d) where
  tables := h.described_tableStatements
  triggers := h.described_triggerStatements
  indexes := h.described_indexStatements
  distinctTables := pairwise_statements h.distinctTables
    (fun _ ht => (h.of_mem_recordedTables ht).2.1.name) _
  distinctTriggers := pairwise_statements h.distinctTriggers
    (fun _ hg => (h.of_mem_recordedTriggers hg).2.1.name) _
  distinctIndexes := pairwise_statements h.distinctIndexes
    (fun _ hi => let ⟨_, _, _, renewed⟩ := h.of_mem_recordedIndexes hi; renewed.name) _
  apart := h.apart_statements

end Restorable

/-! ## What the statements leave -/

/-- What the statements of a dump leave. -/
abbrev Remade (d e : Database) : Prop :=
  Rebuilt (tablesAgain d) (triggersAgain d) (indexesAgain d) e

theorem indexesOf_again (d : Database) (table : String) :
    d.again.indexesOf table = (indexesAgain d).filter fun i => sameName i.table table := by
  have tables : ((tablesAgain d).map SchemaObject.table).filterMap SchemaObject.index? = [] := by
    rw [List.filterMap_map]
    exact List.filterMap_eq_nil_iff.mpr fun _ _ => rfl
  have triggers : ((triggersAgain d).map SchemaObject.trigger).filterMap SchemaObject.index? =
      [] := by
    rw [List.filterMap_map]
    exact List.filterMap_eq_nil_iff.mpr fun _ _ => rfl
  have indexes : ((indexesAgain d).map SchemaObject.index).filterMap SchemaObject.index? =
      indexesAgain d := by
    rw [List.filterMap_map]
    exact List.filterMap_some
  have objects : d.again.all = (tablesAgain d).map .table ++ (triggersAgain d).map .trigger ++
    (indexesAgain d).map .index := rfl
  unfold Database.indexesOf
  rw [objects, List.filterMap_append, List.filterMap_append, tables, triggers, indexes]
  rfl

/-- In an empty database the statements of a dump leave what they make. -/
theorem Restorable.exists_run_statements {d : Database} (h : Restorable d)
    (now : Calendar.Instant) :
    ∃ c', ((recording d).sql.replayOrder.forM fun sql => Action.batch (Replay.tolerant sql)).run
        (Connection.ofDatabase .empty now).begun = (.ok (), c') ∧
      (Connection.ofDatabase .empty now).begun.Keeps c' ∧ Remade d c'.database := by
  obtain ⟨c', run, keeps, rebuilt⟩ := h.schema.exists_run_statements
    (c := (Connection.ofDatabase .empty now).begun) rfl rfl rfl
  rw [← replayOrder_recording h.viewless, run_forM_map] at run
  have tables : (tableStatements d).map Prod.snd = tablesAgain d := List.map_map ..
  have triggers : (triggerStatements d).map Prod.snd = triggersAgain d := List.map_map ..
  have indexes : (indexStatements d).map Prod.snd = indexesAgain d := List.map_map ..
  rw [tables, triggers, indexes] at rebuilt
  exact ⟨c', run, keeps, rebuilt⟩

/-- No trigger waits for insertions. -/
def Engine.Database.Untriggered (d : Database) : Prop :=
  ∀ g ∈ d.objects.filterMap SchemaObject.trigger?, g.event ≠ .insert

instance (d : Database) : Decidable d.Untriggered :=
  inferInstanceAs
    (Decidable (∀ g ∈ d.objects.filterMap SchemaObject.trigger?, g.event ≠ .insert))

namespace Remade

variable {d e : Database} (h : Remade d e)

include h

theorem table?_eq_some {t : Table} (ht : t ∈ recordedTables d) :
    e.table? t.again.name = some t.again.bare :=
  h.tables t.again (List.mem_map_of_mem ht)

/-- What occurs once is known from the statements. -/
theorem uniquenesses_eq (t : Table) : e.uniquenesses t.bare = d.again.uniquenesses t := by
  have made : e.indexesOf t.name = d.again.indexesOf t.name := by
    rw [indexesOf_again]
    unfold Database.indexesOf
    rw [h.all_eq, h.indexes]
  unfold Database.uniquenesses
  rw [← made]
  rfl

/-- No trigger waits for insertions if none did. -/
theorem unwatched (restorable : Restorable d) (untriggered : d.Untriggered) (table : String) :
    e.Unwatched table := by
  intro g' hg
  have known : g' ∈ triggersAgain d := by
    have mem := (List.mem_filter.mp hg).1
    unfold Engine.Database.triggers at mem
    rw [h.temporary, h.triggers] at mem
    simpa using mem
  obtain ⟨g, recorded, rfl⟩ := List.mem_map.mp known
  obtain ⟨-, renewed, -⟩ := restorable.of_mem_recordedTriggers recorded
  have other := untriggered g ((recordedObjects_sublist.filterMap _).mem recorded)
  rw [renewed.event]
  generalize g.event = event at other ⊢
  rcases event with _ | (_ | columns) | _
  case insert => exact absurd rfl other
  all_goals rfl

end Remade

end FilterStore
