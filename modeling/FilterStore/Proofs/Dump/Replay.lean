import FilterStore.Dump.Restore
import FilterStore.Proofs.Engine.Creation
import FilterStore.Proofs.Store.Action

/-!
# Running the statements of a dump again

A statement describes an object if it reads as its definition, and nothing is wrong with it
(`Engine.Table.Described` and its like).  Run in an empty database, the statements of tables, then
of triggers, then of indexes make the objects they describe, in that order and without rows
(`Rebuilt`).  What belongs to a table finds it there because the tables come first, and a name is
free as long as no two objects have it.
-/

namespace FilterStore

open Engine
open Engine.Database (emptyNumbering numberingName)
open Sql (ObjectKind Parsed)
open Text (sameName)

/-! ## Objects that are described -/

/-- A statement reads as the definition of a table, and nothing is wrong with it. -/
structure Engine.Table.Described (sql : String) (t : Table) : Prop where
  reads : ∃ n, Parsed.ofText sql =
      .ok (some ⟨.define (.createTable n t.parts t.text t.rest), 0, ""⟩) ∧
    n.name = t.name ∧ n.temporary = false
  sound : t.parts.flaw = none
  checked : ∀ w : World, w.setting = .check → ∀ check ∈ t.parts.checks,
    checkExpr w [t.relation.shape t.name] false check.expr = .ok ()

/-- A statement reads as the definition of a trigger, and nothing is wrong with it. -/
structure Engine.Trigger.Described (sql : String) (g : Trigger) : Prop where
  reads : ∃ n, Parsed.ofText sql =
      .ok (some ⟨.define (.createTrigger n g.table g.time g.event g.condition g.body g.text), 0,
        ""⟩) ∧
    n.name = g.name ∧ n.temporary = false
  time : g.time ≠ .insteadOf
  closed : Sql.haveParameters (g.condition :: g.body.flatMap Sql.Change.exprs) = false

/-- A statement reads as the definition of an index of a table, and nothing is wrong with it.  The
table can be written in another case there, and a term can be a text that is a name elsewhere. -/
structure Engine.Index.Described (sql : String) (t : Table) (i : Index) : Prop where
  reads : ∃ ifNotExists table terms, Parsed.ofText sql =
      .ok (some ⟨.define (.createIndex ifNotExists i.unique i.name table terms i.condition i.text),
        0, ""⟩) ∧
    sameName t.name table ∧ i.terms = terms.map t.indexTerm ∧
    ∀ c, Step.checkIndex c t.bare { i with table, terms } = .ok ()
  table : i.table = t.name

/-! ## What has been made -/

/-- The table of the numbers has a name that no other object may have. -/
theorem sameName_numberingName {name : String} (h : isReserved name = false) :
    sameName numberingName name = false :=
  Bool.eq_false_iff.mpr fun same => by
    have reserved : isReserved numberingName = true := by decide +kernel
    exact Bool.false_ne_true (h.symm.trans ((isReserved_congr same).symm.trans reserved))

theorem Engine.Database.table?_congr (d : Database) {a b : String} (h : sameName a b) :
    d.table? a = d.table? b := by
  unfold Database.table? sameName
  rw [Text.sameName_iff.mp h]

/-- The objects that have been made: tables without rows, triggers and indexes, and nothing else but
the table of the numbers. -/
structure Rebuilt (ts : List Table) (gs : List Trigger) (is : List Index) (e : Database) :
    Prop where
  temporary : e.temporary = []
  objects : ∀ o ∈ e.objects, (∃ t ∈ ts, o = .table t.bare) ∨ o = .table emptyNumbering ∨
    (∃ g ∈ gs, o = .trigger g) ∨ ∃ i ∈ is, o = .index i
  tables : ∀ t ∈ ts, e.table? t.name = some t.bare
  triggers : e.objects.filterMap SchemaObject.trigger? = gs
  indexes : e.objects.filterMap SchemaObject.index? = is

namespace Rebuilt

variable {ts : List Table} {gs : List Trigger} {is : List Index} {e : Database}

theorem empty : Rebuilt [] [] [] .empty where
  temporary := rfl
  objects _ ho := absurd ho List.not_mem_nil
  tables _ ht := absurd ht List.not_mem_nil
  triggers := rfl
  indexes := rfl

variable (h : Rebuilt ts gs is e)

include h

theorem all_eq : e.all = e.objects := by
  unfold Database.all
  rw [h.temporary, List.nil_append]

theorem kind_ne_view {o : SchemaObject} (ho : o ∈ e.all) : o.kind ≠ .view := by
  rw [h.all_eq] at ho
  rcases h.objects o ho with ⟨t, -, rfl⟩ | rfl | ⟨g, -, rfl⟩ | ⟨i, -, rfl⟩ <;> exact nofun

/-- There are no rows. -/
theorem emptied_eq : e.emptied = e := by
  obtain ⟨objects, temporary⟩ := e
  obtain rfl : temporary = [] := h.temporary
  unfold Database.emptied
  refine congrArg (Database.mk · []) ((List.map_congr_left fun o ho => ?_).trans (List.map_id _))
  rcases h.objects o ho with ⟨t, -, rfl⟩ | rfl | ⟨g, -, rfl⟩ | ⟨i, -, rfl⟩ <;> rfl

/-- A name is free for a table or an index if no table and no index has it. -/
theorem free_of_ne {name : String} (unreserved : isReserved name = false)
    (tables : ∀ t ∈ ts, sameName t.name name = false)
    (indexes : ∀ i ∈ is, sameName i.name name = false) :
    e.Free [.table, .view, .index] name := by
  intro o ho kind
  rw [h.all_eq] at ho
  rcases h.objects o ho with ⟨t, ht, rfl⟩ | rfl | ⟨g, -, rfl⟩ | ⟨i, hi, rfl⟩
  · exact tables t ht
  · exact sameName_numberingName unreserved
  · cases kind
  · exact indexes i hi

theorem free_trigger_of_ne {name : String} (triggers : ∀ g ∈ gs, sameName g.name name = false) :
    e.Free [.trigger] name := by
  intro o ho kind
  rw [h.all_eq] at ho
  rcases h.objects o ho with ⟨t, -, rfl⟩ | rfl | ⟨g, hg, rfl⟩ | ⟨i, -, rfl⟩
  · cases kind
  · cases kind
  · exact triggers g hg
  · cases kind

theorem table?_of_sameName {t : Table} (ht : t ∈ ts) {name : String}
    (same : sameName t.name name) : e.table? name = some t.bare := by
  rw [← e.table?_congr same]
  exact h.tables t ht

theorem add {o : SchemaObject} (ho : o.table? = none) {gs' : List Trigger} {is' : List Index}
    (object : (∃ g ∈ gs', o = .trigger g) ∨ ∃ i ∈ is', o = .index i)
    (triggers : gs' = gs ++ o.trigger?.toList) (indexes : is' = is ++ o.index?.toList) :
    Rebuilt ts gs' is' (e.add false o) where
  temporary := h.temporary
  objects o' ho' := by
    rcases List.mem_append.mp ho' with ho' | ho'
    · rcases h.objects o' ho' with table | numbering | ⟨g, hg, rfl⟩ | ⟨i, hi, rfl⟩
      · exact .inl table
      · exact .inr (.inl numbering)
      · exact .inr (.inr (.inl ⟨g, triggers ▸ List.mem_append_left _ hg, rfl⟩))
      · exact .inr (.inr (.inr ⟨i, indexes ▸ List.mem_append_left _ hi, rfl⟩))
    · obtain rfl := List.mem_singleton.mp ho'
      exact .inr (.inr object)
  tables t ht := (e.table?_add_none _ o ho).trans (h.tables t ht)
  triggers := by
    show (e.objects ++ [o]).filterMap SchemaObject.trigger? = gs'
    rw [List.filterMap_append, h.triggers, triggers]
    rcases o with _ | _ | _ | _ <;> rfl
  indexes := by
    show (e.objects ++ [o]).filterMap SchemaObject.index? = is'
    rw [List.filterMap_append, h.indexes, indexes]
    rcases o with _ | _ | _ | _ <;> rfl

theorem addTrigger (g : Trigger) : Rebuilt ts (gs ++ [g]) is (e.add false (.trigger g)) :=
  h.add rfl (.inl ⟨g, by simp, rfl⟩) rfl (List.append_nil _).symm

theorem addIndex (i : Index) : Rebuilt ts gs (is ++ [i]) (e.add false (.index i)) :=
  h.add rfl (.inr ⟨i, by simp, rfl⟩) (List.append_nil _).symm rfl

theorem addTable {t : Table} (fresh : e.table? t.name = none)
    (others : ∀ u ∈ ts, sameName u.name t.name = false) :
    Rebuilt (ts ++ [t]) gs is (e.add false (.table t.bare)) where
  temporary := h.temporary
  objects o ho := by
    rcases List.mem_append.mp ho with ho | ho
    · rcases h.objects o ho with ⟨u, hu, rfl⟩ | rest
      · exact .inl ⟨u, List.mem_append_left _ hu, rfl⟩
      · exact .inr rest
    · exact .inl ⟨t, by simp, List.mem_singleton.mp ho⟩
  tables u hu := by
    rcases List.mem_append.mp hu with hu | hu
    · have other : sameName t.bare.name u.name = false :=
        (Text.sameName_comm _ _).trans (others u hu)
      exact (e.table?_add_other _ other).trans (h.tables u hu)
    · obtain rfl := List.mem_singleton.mp hu
      exact e.table?_add (t := u.bare) fresh
  triggers := (e.filterMap_add _ rfl).trans h.triggers
  indexes := (e.filterMap_add _ rfl).trans h.indexes

theorem addNumbering (unreserved : ∀ t ∈ ts, isReserved t.name = false) :
    Rebuilt ts gs is (e.add false (.table emptyNumbering)) where
  temporary := h.temporary
  objects o ho := by
    rcases List.mem_append.mp ho with ho | ho
    · exact h.objects o ho
    · exact .inr (.inl (List.mem_singleton.mp ho))
  tables u hu := by
    have other : sameName emptyNumbering.name u.name = false :=
      sameName_numberingName (unreserved u hu)
    exact (e.table?_add_other _ other).trans (h.tables u hu)
  triggers := (e.filterMap_add _ rfl).trans h.triggers
  indexes := (e.filterMap_add _ rfl).trans h.indexes

theorem withTable {t : Table} (unreserved : ∀ u ∈ ts ++ [t], isReserved u.name = false)
    (others : ∀ u ∈ ts, sameName u.name t.name = false) :
    Rebuilt (ts ++ [t]) gs is (e.withTable t.bare) := by
  have fresh : e.table? t.name = none := by
    refine List.find?_eq_none.mpr fun u hu same => ?_
    obtain ⟨o, ho, table⟩ := List.mem_filterMap.mp hu
    rw [h.all_eq] at ho
    rcases h.objects o ho with ⟨v, hv, rfl⟩ | rfl | ⟨g, -, rfl⟩ | ⟨i, -, rfl⟩
    · obtain rfl : v.bare = u := Option.some.inj table
      exact Bool.false_ne_true ((others v hv).symm.trans same)
    · obtain rfl : emptyNumbering = u := Option.some.inj table
      have apart := sameName_numberingName (unreserved t (by simp))
      exact Bool.false_ne_true (apart.symm.trans same)
    · cases table
    · cases table
  have added := h.addTable fresh others
  dsimp only [Database.withTable]
  split
  · exact added.addNumbering unreserved
  · exact added

end Rebuilt

/-! ## Running the statements -/

section Statements

variable {ts : List Table} {gs : List Trigger} {is : List Index} {c : Connection}
  (h : Rebuilt ts gs is c.database) (writable : c.readOnly = false)
  (opened : c.transaction.isSome)

include h writable opened

/-- A statement whose definition succeeds leaves what the definition makes. -/
theorem exists_run_batch {d : Sql.Definition} {text : String} {e : Database}
    (read : Parsed.ofText text = .ok (some ⟨.define d, 0, ""⟩))
    (made : (Step.define d).run (Step.atStart c) = (.ok [], c.behind e)) :
    ∃ c', (Action.batch text).run c = (.ok (), c') ∧ c.Keeps c' ∧ c'.database = e :=
  ⟨c.behind e, run_batch_of_define read made h.emptied_eq writable opened, ⟨rfl, rfl, rfl, rfl⟩,
    rfl⟩

theorem exists_run_table {sql : String} {t : Table} (described : t.Described sql)
    (unreserved : ∀ u ∈ ts ++ [t], isReserved u.name = false)
    (others : ∀ u ∈ ts, sameName u.name t.name = false)
    (indexes : ∀ i ∈ is, sameName i.name t.name = false) :
    ∃ c', (Action.batch sql).run c = (.ok (), c') ∧ c.Keeps c' ∧
      Rebuilt (ts ++ [t]) gs is c'.database := by
  obtain ⟨n, read, named, permanent⟩ := described.reads
  have bare : (⟨n.name, t.parts, t.text, t.rest, []⟩ : Table) = t.bare := by rw [named]; rfl
  have own := unreserved t (by simp)
  have created : (Step.createTable n t.parts t.text t.rest).run (Step.atStart c) = _ :=
    run_createTable permanent (named ▸ own) (named ▸ h.free_of_ne own others indexes)
      described.sound (named ▸ described.checked ((Step.atStart c).world [] .check) rfl)
  have made : (Step.define (.createTable n t.parts t.text t.rest)).run (Step.atStart c) =
      (.ok [], c.behind (c.database.withTable t.bare)) := by
    show (Step.silent (Step.createTable n t.parts t.text t.rest)).run (Step.atStart c) = _
    rw [run_silent, created, bare]
    rfl
  obtain ⟨c', run, keeps, database⟩ := exists_run_batch h writable opened read made
  exact ⟨c', run, keeps, database ▸ h.withTable unreserved others⟩

theorem exists_run_trigger {sql : String} {g : Trigger} (described : g.Described sql) {t : Table}
    (ht : t ∈ ts) (owner : sameName t.name g.table) (unreservedTable : isReserved t.name = false)
    (unreserved : isReserved g.name = false) (others : ∀ g' ∈ gs, sameName g'.name g.name = false) :
    ∃ c', (Action.batch sql).run c = (.ok (), c') ∧ c.Keeps c' ∧
      Rebuilt ts (gs ++ [g]) is c'.database := by
  obtain ⟨n, read, named, permanent⟩ := described.reads
  have created : (Step.createTrigger n g).run (Step.atStart c) = _ :=
    run_createTrigger (c := Step.atStart c) h.temporary (fun o ho => h.kind_ne_view ho)
      (h.table?_of_sameName ht owner) ((isReserved_congr owner).symm.trans unreservedTable) rfl
      permanent unreserved (h.free_trigger_of_ne others) described.time described.closed
  have made : (Step.define (.createTrigger n g.table g.time g.event g.condition g.body g.text)).run
      (Step.atStart c) = (.ok [], c.behind (c.database.add false (.trigger g))) := by
    show (Step.silent (Step.createTrigger n
      ⟨n.name, g.table, g.time, g.event, g.condition, g.body, g.text⟩)).run (Step.atStart c) = _
    rw [run_silent, named, created]
    rfl
  obtain ⟨c', run, keeps, database⟩ := exists_run_batch h writable opened read made
  exact ⟨c', run, keeps, database ▸ h.addTrigger g⟩

theorem exists_run_index {sql : String} {t : Table} (ht : t ∈ ts) {i : Index}
    (described : i.Described sql t)
    (unreservedTable : isReserved t.name = false) (unreserved : isReserved i.name = false)
    (tables : ∀ t ∈ ts, sameName t.name i.name = false)
    (others : ∀ i' ∈ is, sameName i'.name i.name = false) :
    ∃ c', (Action.batch sql).run c = (.ok (), c') ∧ c.Keeps c' ∧
      Rebuilt ts gs (is ++ [i]) c'.database := by
  obtain ⟨ifNotExists, table, terms, read, owner, translated, checked⟩ := described.reads
  have created : (Step.createIndex ifNotExists { i with table, terms }).run (Step.atStart c) = _ :=
    run_createIndex (c := Step.atStart c) (i := { i with table, terms }) h.temporary
      (fun o ho => h.kind_ne_view ho) (h.table?_of_sameName ht owner)
      ((isReserved_congr owner).symm.trans unreservedTable) rfl unreserved
      (h.free_of_ne unreserved tables others) rfl (checked (Step.atStart c)) ifNotExists
  have same :
      ({ i with table := t.bare.name, terms := terms.map t.bare.indexTerm } : Index) = i := by
    have named : t.bare.name = i.table := described.table.symm
    have terms : terms.map t.bare.indexTerm = i.terms := translated.symm
    rw [named, terms]
  have made : (Step.define (.createIndex ifNotExists i.unique i.name table terms i.condition
      i.text)).run (Step.atStart c) = (.ok [], c.behind (c.database.add false (.index i))) := by
    show (Step.silent (Step.createIndex ifNotExists { i with table, terms })).run
      (Step.atStart c) = _
    rw [run_silent, created, same]
    rfl
  obtain ⟨c', run, keeps, database⟩ := exists_run_batch h writable opened read made
  exact ⟨c', run, keeps, database ▸ h.addIndex i⟩

end Statements

/-- Statements with the objects that they describe: what belongs to a table has its table, and no
two objects share a name that must be free for them. -/
structure Schema (ts : List (String × Table)) (gs : List (String × Trigger))
    (is : List (String × Index)) : Prop where
  tables : ∀ p ∈ ts, p.2.Described p.1 ∧ isReserved p.2.name = false
  triggers : ∀ p ∈ gs, p.2.Described p.1 ∧ isReserved p.2.name = false ∧
    ∃ q ∈ ts, sameName q.2.name p.2.table
  indexes : ∀ p ∈ is, isReserved p.2.name = false ∧ ∃ q ∈ ts, p.2.Described p.1 q.2
  distinctTables : ts.Pairwise fun p q => sameName p.2.name q.2.name = false
  distinctTriggers : gs.Pairwise fun p q => sameName p.2.name q.2.name = false
  distinctIndexes : is.Pairwise fun p q => sameName p.2.name q.2.name = false
  apart : ∀ p ∈ ts, ∀ q ∈ is, sameName p.2.name q.2.name = false

namespace Schema

variable {ts : List (String × Table)} {gs : List (String × Trigger)} {is : List (String × Index)}
  (h : Schema ts gs is) {c : Connection} (writable : c.readOnly = false)
  (opened : c.transaction.isSome)

/-- Names that are not shared are not those of what came before. -/
theorem others {α : Type} {name : α → String} {xs before after : List α} {x : α}
    (distinct : xs.Pairwise fun a b => sameName (name a) (name b) = false)
    (split : xs = before ++ x :: after) : ∀ y ∈ before, sameName (name y) (name x) = false :=
  fun y hy => (List.pairwise_append.mp (split ▸ distinct)).2.2 y hy x List.mem_cons_self

include h writable opened

theorem exists_run_tables (empty : c.database = .empty) :
    ∃ c', (ts.forM fun p => Action.batch p.1).run c = (.ok (), c') ∧ c.Keeps c' ∧
      Rebuilt (ts.map Prod.snd) [] [] c'.database :=
  exists_run_forM (P := fun before c' => c.Keeps c' ∧
      Rebuilt (before.map Prod.snd) [] [] c'.database)
    ⟨.refl c, empty ▸ .empty⟩ fun before p after split c₁ ⟨keeps, rebuilt⟩ => by
      have mem : ∀ q ∈ before ++ [p], q ∈ ts := fun q hq => by
        rw [split, List.append_cons]
        exact List.mem_append_left _ hq
      have added : (before ++ [p]).map Prod.snd = before.map Prod.snd ++ [p.2] := List.map_append
      obtain ⟨c₂, run, keeps', rebuilt'⟩ := exists_run_table rebuilt
        (keeps.readOnly.trans writable) (keeps.isSome opened) (h.tables p (mem p (by simp))).1
        (by
          rw [← added, List.forall_mem_map]
          exact fun q hq => (h.tables q (mem q hq)).2)
        (by
          rw [List.forall_mem_map]
          exact others h.distinctTables split)
        nofun
      exact ⟨c₂, run, keeps.trans keeps', added ▸ rebuilt'⟩

theorem exists_run_triggers (start : Rebuilt (ts.map Prod.snd) [] [] c.database) :
    ∃ c', (gs.forM fun p => Action.batch p.1).run c = (.ok (), c') ∧ c.Keeps c' ∧
      Rebuilt (ts.map Prod.snd) (gs.map Prod.snd) [] c'.database :=
  exists_run_forM (P := fun before c' => c.Keeps c' ∧
      Rebuilt (ts.map Prod.snd) (before.map Prod.snd) [] c'.database)
    ⟨.refl c, start⟩ fun before p after split c₁ ⟨keeps, rebuilt⟩ => by
      obtain ⟨described, unreserved, q, hq, owner⟩ := h.triggers p (by simp [split])
      obtain ⟨c₂, run, keeps', rebuilt'⟩ := exists_run_trigger rebuilt
        (keeps.readOnly.trans writable) (keeps.isSome opened) described (List.mem_map_of_mem hq)
        owner (h.tables q hq).2 unreserved
        (by
          rw [List.forall_mem_map]
          exact others h.distinctTriggers split)
      have added : (before ++ [p]).map Prod.snd = before.map Prod.snd ++ [p.2] := List.map_append
      exact ⟨c₂, run, keeps.trans keeps', added ▸ rebuilt'⟩

theorem exists_run_indexes (start : Rebuilt (ts.map Prod.snd) (gs.map Prod.snd) [] c.database) :
    ∃ c', (is.forM fun p => Action.batch p.1).run c = (.ok (), c') ∧ c.Keeps c' ∧
      Rebuilt (ts.map Prod.snd) (gs.map Prod.snd) (is.map Prod.snd) c'.database :=
  exists_run_forM (P := fun before c' => c.Keeps c' ∧
      Rebuilt (ts.map Prod.snd) (gs.map Prod.snd) (before.map Prod.snd) c'.database)
    ⟨.refl c, start⟩ fun before p after split c₁ ⟨keeps, rebuilt⟩ => by
      have mem : p ∈ is := by simp [split]
      obtain ⟨unreserved, q, hq, described⟩ := h.indexes p mem
      obtain ⟨c₂, run, keeps', rebuilt'⟩ := exists_run_index rebuilt
        (keeps.readOnly.trans writable) (keeps.isSome opened) (List.mem_map_of_mem hq) described
        (h.tables q hq).2 unreserved
        (by
          rw [List.forall_mem_map]
          exact fun u hu => h.apart u hu p mem)
        (by
          rw [List.forall_mem_map]
          exact others h.distinctIndexes split)
      have added : (before ++ [p]).map Prod.snd = before.map Prod.snd ++ [p.2] := List.map_append
      exact ⟨c₂, run, keeps.trans keeps', added ▸ rebuilt'⟩

/-- In an empty database the statements of a schema make its objects. -/
theorem exists_run_statements (empty : c.database = .empty) :
    ∃ c', ((ts.map Prod.fst ++ gs.map Prod.fst ++ is.map Prod.fst).forM Action.batch).run c =
        (.ok (), c') ∧ c.Keeps c' ∧
      Rebuilt (ts.map Prod.snd) (gs.map Prod.snd) (is.map Prod.snd) c'.database := by
  obtain ⟨c₁, tables, keeps₁, rebuilt₁⟩ := h.exists_run_tables writable opened empty
  obtain ⟨c₂, triggers, keeps₂, rebuilt₂⟩ := h.exists_run_triggers
    (keeps₁.readOnly.trans writable) (keeps₁.isSome opened) rebuilt₁
  have keeps := keeps₁.trans keeps₂
  obtain ⟨c₃, indexes, keeps₃, rebuilt₃⟩ := h.exists_run_indexes
    (keeps.readOnly.trans writable) (keeps.isSome opened) rebuilt₂
  refine ⟨c₃, ?_, keeps.trans keeps₃, rebuilt₃⟩
  simp only [run_forM_append, run_bind, run_forM_map, tables, triggers, indexes]

end Schema

end FilterStore
