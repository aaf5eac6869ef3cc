import Mathlib.Data.List.Perm.Basic
import FilterStore.Migration.Context
import FilterStore.Proofs.Schema.Outline

/-!
# The statements of a schema, table by table

A schema function can create everything at once, or one table after the other.  At once means all
tables, then all indexes, then all triggers.  One table after the other means a table with its own
indexes and its own triggers, and these are found by the name of the table they are attached to,
whatever the case of its letters.

So the two can differ in three ways.  A statement is lost if what it creates is attached to no
table; it is run twice if it is attached to two; and it is run for the wrong table if names clash.
None of this can happen as long as what is attached falls to exactly one table.  That is what
consistency gives: names of tables occur once up to case, so nothing falls to two of them, and the
table of an index or of a trigger is registered, so nothing falls to none
(`Named.perm_flatMap_filter`).
-/

namespace FilterStore

open Text (sameName)
open scoped List

/-! ## Sorting things by whom they belong to -/

namespace Named

variable {α β : Type} {nameOf : α → String} {ownerOf : β → String} {owners : List α}

/-- **Things that each belong to one of some owners are all there if the owners lay out theirs one
after the other.** -/
theorem perm_flatMap_filter (distinct : Distinct nameOf owners) {things : List β}
    (owned : ∀ b ∈ things, ∃ a ∈ owners, sameName (nameOf a) (ownerOf b) = true) :
    (owners.flatMap fun a => things.filter fun b => sameName (ownerOf b) (nameOf a)).Perm
      things := by
  induction owners generalizing things with
  | nil =>
    cases things with
    | nil => exact .refl []
    | cons b _ =>
      obtain ⟨_, none, -⟩ := owned b List.mem_cons_self
      cases none
  | cons a rest ih =>
    obtain ⟨apart, distinct⟩ := List.nodup_cons.mp distinct
    -- What belongs to a later owner does not belong to the first.
    have others : ∀ c ∈ rest, (things.filter fun b => sameName (ownerOf b) (nameOf c)) =
        (things.filter fun b => !sameName (ownerOf b) (nameOf a)).filter
          fun b => sameName (ownerOf b) (nameOf c) := by
      intro c hc
      rw [List.filter_filter]
      refine List.filter_congr fun b _ => ?_
      cases later : sameName (ownerOf b) (nameOf c) with
      | false => rfl
      | true =>
        cases first : sameName (ownerOf b) (nameOf a) with
        | false => rfl
        | true =>
          rw [Text.sameName_iff] at later first
          exact absurd (List.mem_map.mpr ⟨c, hc, later.symm.trans first⟩) apart
    have left : ∀ b ∈ things.filter fun b => !sameName (ownerOf b) (nameOf a),
        ∃ c ∈ rest, sameName (nameOf c) (ownerOf b) = true := by
      intro b hb
      obtain ⟨hb, notFirst⟩ := List.mem_filter.mp hb
      obtain ⟨c, hc, same⟩ := owned b hb
      rcases List.mem_cons.mp hc with rfl | hc
      · rw [Text.sameName_comm, same] at notFirst
        cases notFirst
      · exact ⟨c, hc, same⟩
    rw [List.flatMap_cons, List.flatMap_congr others]
    exact ((ih distinct left).append_left _).trans (List.filter_append_perm _ things)

end Named

/-! ## Statements of a table -/

namespace Registry

variable {r : Registry}

/-- The statements of a registered table: its own, those of its indexes, those of its triggers. -/
def statementsOf (r : Registry) (t : TableDefinition) : List String :=
  t.createSql ::
    ((r.indexes.filter fun i => sameName i.table t.name).map IndexDefinition.createSql ++
      (r.triggers.filter fun g => sameName g.table t.name).map TriggerDefinition.sql)

/-- A registered table is found by its name. -/
theorem Tidy.createStatementsFor_name (hr : r.Tidy) {t : TableDefinition} (ht : t ∈ r.tables) :
    r.createStatementsFor t.name = .ok (r.statementsOf t) := by
  have found : r.requireTable t.name = .ok t := requireTable_eq_ok hr ht (Text.sameName_refl t.name)
  rw [createStatementsFor, trim_of_isIdentifier (hr.named t ht).name, found]
  rfl

/-- **The statements of all tables are those of the schema, each as often as there.** -/
theorem Consistent.perm_statementsOf (hr : r.Consistent) :
    (r.tables.flatMap r.statementsOf).Perm r.createStatements := by
  have indexes : (r.tables.flatMap fun t => r.indexes.filter fun i => sameName i.table t.name).Perm
      r.indexes := by
    refine Named.perm_flatMap_filter hr.tables fun i hi => ?_
    obtain ⟨t, ht, same, -⟩ := hr.covered i hi
    exact ⟨t, ht, same⟩
  have triggers :
      (r.tables.flatMap fun t => r.triggers.filter fun g => sameName g.table t.name).Perm
        r.triggers :=
    Named.perm_flatMap_filter hr.tables hr.trigger_table
  have attached :=
    (indexes.map IndexDefinition.createSql).append (triggers.map TriggerDefinition.sql)
  rw [List.map_flatMap, List.map_flatMap] at attached
  calc r.tables.flatMap r.statementsOf
    _ ~ r.tables.map TableDefinition.createSql ++ r.tables.flatMap (fun t =>
          (r.indexes.filter fun i => sameName i.table t.name).map IndexDefinition.createSql ++
            (r.triggers.filter fun g => sameName g.table t.name).map TriggerDefinition.sql) :=
      (List.map_append_flatMap_perm r.tables TableDefinition.createSql _).symm
    _ ~ r.tables.map TableDefinition.createSql ++
          (r.indexes.map IndexDefinition.createSql ++ r.triggers.map TriggerDefinition.sql) :=
      ((List.flatMap_append_perm r.tables _ _).symm.trans attached).append_left _
    _ = r.createStatements := (List.append_assoc ..).symm

/-! ## Running them -/

/-- Work that runs lists of statements one after the other runs their concatenation. -/
theorem forM_eq_forM_flatMap {α : Type} {work : α → Action Unit} {f : α → List String}
    {xs : List α} (h : ∀ x ∈ xs, work x = (f x).forM Action.batch) :
    xs.forM work = (xs.flatMap f).forM Action.batch := by
  induction xs with
  | nil => rfl
  | cons x xs ih =>
    obtain ⟨first, others⟩ := List.forall_mem_cons.mp h
    have joined : (f x ++ xs.flatMap f).forM Action.batch =
        (f x).forM Action.batch >>= fun _ => (xs.flatMap f).forM Action.batch := List.forM_append
    rw [List.flatMap_cons, joined, ← first, ← ih others]
    rfl

/-- Creating a registered table runs its statements. -/
theorem Tidy.createTable_name (hr : r.Tidy) {t : TableDefinition} (ht : t ∈ r.tables) :
    r.createTable t.name = (r.statementsOf t).forM Action.batch := by
  have given : Action.ofRequest (.ok (r.statementsOf t)) = pure (r.statementsOf t) := rfl
  rw [createTable, hr.createStatementsFor_name ht, given, pure_bind]

/-- **Whatever was registered, in whatever order and however often, creating the tables one by one
runs the statements of the schema: each table, index and trigger as often as creating everything at
once does.**  Only their order can differ. -/
theorem perm_createStatements (options : RegistryOptions) (ms : List Mutation) :
    let r := after options ms
    ∃ statements, r.tables.mapM (fun t => r.createStatementsFor t.name) = .ok statements ∧
      statements.flatten.Perm r.createStatements ∧
      (r.tables.forM fun t => r.createTable t.name) = statements.flatten.forM Action.batch ∧
      r.createTables = r.createStatements.forM Action.batch := by
  intro r
  have hr : r.Consistent := consistent_after options ms
  refine ⟨r.tables.map r.statementsOf,
    mapM_of_ok fun t ht => hr.toTidy.createStatementsFor_name ht, ?_, ?_, rfl⟩
  · rw [← List.flatMap_def]
    exact hr.perm_statementsOf
  · rw [← List.flatMap_def]
    exact forM_eq_forM_flatMap fun t ht => hr.toTidy.createTable_name ht

/-- A trigger that has moved to another table is created with that one, and a table that comes back
in another spelling keeps the indexes on the columns it still has. -/
example :
    let r := after .standard
      [.addTable "note" [.ofParts "line" "TEXT" ""] [.index "by_line" ["LINE"] false],
        .addTable "log" [.ofParts "line" "TEXT" ""] [],
        .addTrigger "seen" "note" "CREATE TRIGGER seen AFTER INSERT ON note BEGIN SELECT 1; END",
        .addTrigger "SEEN" "log" "CREATE TRIGGER seen AFTER INSERT ON log BEGIN SELECT 1; END",
        .addTable "Note" [.ofParts "line" "TEXT" ""] []]
    (r.createStatementsFor "note").toOption = some
        ["CREATE TABLE IF NOT EXISTS Note (line TEXT)",
          "CREATE INDEX IF NOT EXISTS by_line ON note (line)"] ∧
      (r.createStatementsFor "log").toOption = some
        ["CREATE TABLE IF NOT EXISTS log (line TEXT)",
          "CREATE TRIGGER seen AFTER INSERT ON log BEGIN SELECT 1; END"] := by
  decide +kernel

end Registry

end FilterStore
