import FilterStore.Proofs.Dump.Restore
import FilterStore.Proofs.Engine.Growth

/-!
# The order of statements

A document has its statements by kind, and they are run in this order: those of tables, of triggers,
of indexes and of views, each once (`replayed_perm`).  So whatever is attached to a table comes
behind its table, but a trigger that is attached to a view comes before it.  The order is right
exactly if all that is recorded and attached to something is attached to a table that is recorded,
too (`inOrder_replayed_iff`).

Run in an empty database, what is attached to something finds it there exactly if it was listed
before.  So in the right order nothing is missing, and in the wrong order running the statements
fails, whatever else the database holds (`Document.runsInOrder_iff_tabled`).
-/

namespace FilterStore

open Engine (Connection Database SchemaObject Step Table Trigger View creates isReserved)
open Sql (ObjectKind Parsed Token)
open Text (sameName)

/-! ## Objects in the order of their statements -/

/-- The kinds of objects in the order in which their statements are run. -/
def replayKinds : List ObjectKind := [.table, .trigger, .index, .view]

/-- Objects in the order in which their statements are run. -/
def replayed (os : List SchemaObject) : List SchemaObject :=
  replayKinds.flatMap fun kind => os.filter fun o => o.kind = kind

theorem replayOrder_ofObjects (os : List SchemaObject) :
    (DumpSql.ofObjects os).replayOrder = (replayed os).map SchemaObject.sql := by
  simp [DumpSql.replayOrder, DumpSql.ofObjects, statementsOf, replayed, replayKinds]

/-- Every object has its turn once. -/
theorem replayed_perm (os : List SchemaObject) : (replayed os).Perm os := by
  induction os with
  | nil => exact .refl []
  | cons o os ih =>
    refine List.Perm.trans ?_ (ih.cons o)
    simp only [replayed, replayKinds, List.flatMap_cons, List.flatMap_nil, List.append_nil,
      List.filter_cons]
    cases o.kind with
    | table => exact .refl _
    | trigger => exact List.perm_middle
    | index => exact (List.perm_middle.append_left _).trans List.perm_middle
    | view =>
      exact ((List.perm_middle.append_left _).append_left _).trans
        ((List.perm_middle.append_left _).trans List.perm_middle)

/-- No object comes behind one of a later kind. -/
theorem replayed_pairwise (os : List SchemaObject) :
    (replayed os).Pairwise fun a b => replayKinds.idxOf a.kind ≤ replayKinds.idxOf b.kind := by
  have of_filter : ∀ {kind o}, o ∈ os.filter (fun o => o.kind = kind) → o.kind = kind :=
    fun ho => of_decide_eq_true (List.mem_filter.mp ho).2
  refine List.pairwise_flatMap.mpr ⟨fun kind _ => ?_, ?_⟩
  · refine List.pairwise_of_forall_mem_list fun a ha b hb => ?_
    rw [of_filter ha, of_filter hb]
  · have sorted : replayKinds.Pairwise fun k l => replayKinds.idxOf k ≤ replayKinds.idxOf l := by
      decide
    refine sorted.imp fun {k l} le a ha b hb => ?_
    rwa [of_filter ha, of_filter hb]

/-- What is attached to something has its turn behind tables and before views. -/
theorem Engine.SchemaObject.IsAttached.turn {o : SchemaObject} (h : o.IsAttached) :
    replayKinds.idxOf .table < replayKinds.idxOf o.kind ∧
      replayKinds.idxOf o.kind < replayKinds.idxOf .view := by
  rcases h with kind | kind <;> rw [kind] <;> decide

/-- Whatever is attached to something stands behind it. -/
def InOrder (os : List SchemaObject) : Prop :=
  ∀ before o after, os = before ++ o :: after → o.IsAttached →
    ∃ p ∈ before, p.IsOwner ∧ sameName p.name o.tableName

/-- Whatever is attached to something is attached to a table among the objects. -/
def Tabled (os : List SchemaObject) : Prop :=
  ∀ o ∈ os, o.IsAttached → ∃ t ∈ os, t.kind = .table ∧ sameName t.name o.tableName

instance (os : List SchemaObject) : Decidable (Tabled os) :=
  inferInstanceAs (Decidable (∀ o ∈ os, o.IsAttached →
    ∃ t ∈ os, t.kind = .table ∧ sameName t.name o.tableName))

/-- The order is right where everything is attached to a table, and only there. -/
theorem inOrder_replayed_iff {os : List SchemaObject} : InOrder (replayed os) ↔ Tabled os := by
  have mem : ∀ {o}, o ∈ replayed os ↔ o ∈ os := (replayed_perm os).mem_iff
  constructor
  · intro ordered o ho attached
    obtain ⟨before, after, split⟩ := List.append_of_mem (mem.mpr ho)
    obtain ⟨p, hp, owner, named⟩ := ordered before o after split attached
    have sorted := List.pairwise_append.mp (split ▸ replayed_pairwise os)
    have earlier := sorted.2.2 p hp o List.mem_cons_self
    refine ⟨p, mem.mp (split ▸ List.mem_append_left _ hp), ?_, named⟩
    rcases owner with table | view
    · exact table
    · rw [view] at earlier
      exact absurd attached.turn.2 (Nat.not_lt.mpr earlier)
  · intro tabled before o after split attached
    have ho : o ∈ os := mem.mp (split ▸ List.mem_append_right _ List.mem_cons_self)
    obtain ⟨t, ht, table, named⟩ := tabled o ho attached
    have turn := mem.mpr ht
    rw [split, List.mem_append] at turn
    refine ⟨t, turn.resolve_right fun late => ?_, .inl table, named⟩
    have sorted := (List.pairwise_append.mp (split ▸ replayed_pairwise os)).2.1
    have later : replayKinds.idxOf o.kind ≤ replayKinds.idxOf t.kind := by
      rcases List.mem_cons.mp late with rfl | late
      · exact Nat.le_refl _
      · exact (List.pairwise_cons.mp sorted).1 t late
    rw [table] at later
    exact absurd attached.turn.1 (Nat.not_lt.mpr later)

/-! ## What is there when an object has its turn -/

/-- A database has the tables and views of objects and no others, but for the engine's own. -/
def Shows (os : List SchemaObject) (d : Database) : Prop :=
  ∀ name, isReserved name = false →
    (d.HasOwner name ↔ ∃ p ∈ os, p.IsOwner ∧ sameName p.name name)

theorem shows_empty : Shows [] .empty := by
  intro name _
  constructor
  · rintro ⟨_, mem, -⟩
    cases mem
  · rintro ⟨_, mem, -⟩
    cases mem

/-- With an object that is created one object more is shown. -/
theorem Shows.created {os : List SchemaObject} {o : SchemaObject} {c c' : Connection}
    (h : Shows os c.database) (created : c.Created o c') : Shows (os ++ [o]) c'.database := by
  intro name unreserved
  constructor
  · rintro ⟨x, hx, owner, same⟩
    have shown : (∃ p ∈ os, p.IsOwner ∧ sameName p.name name) ∨
        o.IsOwner ∧ sameName o.name name := by
      rcases created.grows.added x hx with old | new
      · exact .inl ((h name unreserved).mp ⟨x, old, owner, same⟩)
      · rcases new owner with reserved | ⟨owner, named⟩
        · rw [Engine.isReserved_congr same, unreserved] at reserved
          cases reserved
        · rw [Text.sameName_comm] at named
          exact .inr ⟨owner, Text.sameName_trans named same⟩
    rcases shown with ⟨p, hp, named⟩ | named
    · exact ⟨p, List.mem_append_left _ hp, named⟩
    · exact ⟨o, List.mem_append_right _ (List.mem_singleton_self o), named⟩
  · rintro ⟨p, hp, owner, same⟩
    rcases List.mem_append.mp hp with hp | hp
    · exact created.grows.hasOwner ((h name unreserved).mpr ⟨p, hp, owner, same⟩)
    · obtain rfl := List.mem_singleton.mp hp
      have there := created.there
      rw [owner.tableName_eq] at there
      exact (Database.hasOwner_congr same).mp there

/-- The statement of an object, as it is run again, creates the object, and what it is attached to
is not the engine's own. -/
structure Engine.SchemaObject.Replayable (o : SchemaObject) : Prop where
  reads : ∃ d, Parsed.ofText (Replay.tolerant o.sql) = .ok (some ⟨.define d, 0, ""⟩) ∧ creates d o
  unreserved : isReserved o.tableName = false

/-- Runs the statements of objects one after the other. -/
def replayAll (os : List SchemaObject) : Action Unit :=
  os.forM fun o => Action.batch (Replay.tolerant o.sql)

/-- What is run successfully has created its object. -/
theorem Engine.SchemaObject.Replayable.exists_created {o : SchemaObject} (h : o.Replayable)
    {c c' : Connection} (done : (Action.batch (Replay.tolerant o.sql)).run c = (.ok (), c')) :
    ∃ c₁ c₂ : Connection, c₁.database = c.database ∧ c₂.database = c'.database ∧
      c₁.Created o c₂ := by
  obtain ⟨d, read, made⟩ := h.reads
  obtain ⟨hs, c₁, defined, database⟩ := Engine.exists_of_batch_ok read done
  have created := Engine.created_of_define_ok made h.unreserved defined
  exact ⟨Step.atStart c, c₁, rfl, (database created.grows.numberings).symm, created⟩

/-- Statements that all succeed in an empty database show their objects. -/
theorem shows_of_run_ok {os : List SchemaObject} (h : ∀ o ∈ os, o.Replayable) {c c' : Connection}
    (empty : c.database = .empty) (done : (replayAll os).run c = (.ok (), c')) :
    Shows os c'.database :=
  of_run_forM_ok (P := fun before c => Shows before c.database) (empty ▸ shows_empty)
    (fun before o after split c c' shows ran => by
      have ho : o ∈ os := split ▸ List.mem_append_right _ List.mem_cons_self
      obtain ⟨c₁, c₂, same, same', created⟩ := (h o ho).exists_created ran
      rw [← same] at shows
      rw [← same']
      exact shows.created created) done

/-- Where all statements succeed in an empty database, they stand in order. -/
theorem inOrder_of_run_ok {os : List SchemaObject} (h : ∀ o ∈ os, o.Replayable) {c c' : Connection}
    (empty : c.database = .empty) (done : (replayAll os).run c = (.ok (), c')) : InOrder os := by
  rintro before o after rfl attached
  have ho := h o (List.mem_append_right _ List.mem_cons_self)
  unfold replayAll at done
  rw [run_forM_append] at done
  obtain ⟨⟨⟩, c₁, earlier, rest⟩ := exists_of_run_bind_ok done
  rw [run_forM_cons] at rest
  obtain ⟨⟨⟩, c₂, ran, -⟩ := exists_of_run_bind_ok rest
  obtain ⟨d₁, d₂, same, -, created⟩ := ho.exists_created ran
  have there := created.before attached
  rw [same] at there
  exact (shows_of_run_ok (fun p hp => h p (List.mem_append_left _ hp)) empty earlier o.tableName
    ho.unreserved).mp there

/-! ## Documents -/

namespace Document

/-- A dump has the statements of what is recorded. -/
theorem sql_of_ofDatabase_ok {c c' : Connection} {doc : Document}
    (h : ofDatabase.run c = (.ok doc, c')) : doc.sql = .ofObjects (recordedObjects c.database) := by
  have reads : ∀ (ts : List Table) (d : Document) {c c' : Connection} {doc : Document},
      (ts.foldlM readTable d).run c = (.ok doc, c') → doc.sql = d.sql := by
    intro ts
    induction ts with
    | nil =>
      intro d c c' doc done
      cases done
      rfl
    | cons t ts ih =>
      intro d c c' doc done
      rw [List.foldlM_cons] at done
      obtain ⟨e, c₁, read, others⟩ := exists_of_run_bind_ok done
      unfold readTable at read
      obtain ⟨answer, c₂, -, given⟩ := exists_of_run_bind_ok read
      cases given
      have later := ih _ others
      exact later
  unfold ofDatabase at h
  obtain ⟨_, _, ⟨⟩, dumped⟩ := exists_of_run_bind_ok h
  exact reads _ _ dumped

/-- A document runs the statement of each object once, whatever is attached to something behind
that, and when an object that is attached has its turn in a database that was empty, what it is
attached to is there. -/
structure RunsInOrder (doc : Document) (os : List SchemaObject) (now : Calendar.Instant) :
    Prop where
  listed : doc.sql.replayOrder = (replayed os).map SchemaObject.sql
  once : (replayed os).Perm os
  ordered : InOrder (replayed os)
  found : ∀ before o after c, replayed os = before ++ o :: after → o.IsAttached →
    (replayAll before).run (Connection.ofDatabase .empty now).begun = (.ok (), c) →
    c.database.HasOwner o.tableName

/-- **A dump runs its statements in order exactly if whatever is recorded and attached to something
is attached to a table that is recorded.  Otherwise it cannot be restored into an empty database at
all.** -/
theorem runsInOrder_iff_tabled {c c' : Connection} {doc : Document}
    (dumped : ofDatabase.run c = (.ok doc, c'))
    (replayable : ∀ o ∈ recordedObjects c.database, o.Replayable) (now : Calendar.Instant) :
    (doc.RunsInOrder (recordedObjects c.database) now ↔ Tabled (recordedObjects c.database)) ∧
      (¬Tabled (recordedObjects c.database) →
        ∀ d c₁, doc.restore.run (.ofDatabase .empty now) ≠ (.ok d, c₁)) := by
  have sql := sql_of_ofDatabase_ok dumped
  generalize recordedObjects c.database = os at sql replayable ⊢
  have listed : doc.sql.replayOrder = (replayed os).map SchemaObject.sql := by
    rw [sql, replayOrder_ofObjects]
  have turns : ∀ o ∈ replayed os, o.Replayable := fun o ho =>
    replayable o ((replayed_perm os).mem_iff.mp ho)
  refine ⟨⟨fun h => inOrder_replayed_iff.mp h.ordered, fun tabled => ?_⟩, fun untabled d c₁ done => ?_⟩
  · have ordered := inOrder_replayed_iff.mpr tabled
    refine ⟨listed, replayed_perm os, ordered, fun before o after c₁ split attached ran => ?_⟩
    have turn : ∀ p ∈ before ++ o :: after, p.Replayable := split ▸ turns
    have unreserved := (turn o (List.mem_append_right _ List.mem_cons_self)).unreserved
    have shows := shows_of_run_ok (fun p hp => turn p (List.mem_append_left _ hp)) rfl ran
    exact (shows o.tableName unreserved).mpr (ordered before o after split attached)
  · unfold restore at done
    obtain ⟨⟨⟩, c₂, ran, -⟩ := exists_of_run_bind_ok done
    obtain ⟨c₃, c₄, begun, ran, -⟩ := Bounds.exists_of_whole_ok ran
    rw [Action.run_begin_of_idle rfl] at begun
    cases begun
    rw [listed, run_forM_map] at ran
    exact untabled (inOrder_replayed_iff.mp (inOrder_of_run_ok turns rfl ran))

/-! ## Codes through a view -/

/-- The codes of all items. -/
def codesView : View where
  name := "codes"
  columns := none
  query := .mk false [.value (.column ⟨none, "code", false, 42⟩) "code" false]
    (some ⟨"item", "item"⟩) (.literal (.integer 1)) [] (.literal (.integer 1)) []
    (.literal .null) (.literal (.integer (-1))) (.literal (.integer 0))
  text := "CREATE VIEW codes AS SELECT code FROM item"

theorem tokens_codesView : Token.ofText (Replay.tolerant codesView.text) =
    [⟨.word, "", "CREATE", 0⟩, ⟨.word, " ", "VIEW", 7⟩, ⟨.word, " ", "IF", 12⟩,
      ⟨.word, " ", "NOT", 15⟩, ⟨.word, " ", "EXISTS", 19⟩, ⟨.word, " ", "codes", 26⟩,
      ⟨.word, " ", "AS", 32⟩, ⟨.word, " ", "SELECT", 35⟩, ⟨.word, " ", "code", 42⟩,
      ⟨.word, " ", "FROM", 47⟩, ⟨.word, " ", "item", 52⟩, ⟨.finish, "", "", 56⟩] := by
  decide +kernel

set_option maxRecDepth 2000 in
theorem parsed_codesView : Parsed.ofText (Replay.tolerant codesView.text) =
    .ok (some ⟨.define (.createView ⟨false, true, "codes", "codes", 26⟩ none codesView.query
      codesView.text), 0, ""⟩) := by
  unfold Parsed.ofText
  rw [tokens_codesView]
  rfl

/-- Items with a view, an index and a trigger. -/
def stall : Connection :=
  .ofDatabase ⟨[.table (itemTable 54), .view codesView, .index (codeIndex 39),
    .trigger (itemTrigger 75)], []⟩ epoch

theorem recordedObjects_stall : recordedObjects stall.database = stall.database.objects :=
  recordedObjects_eq_objects (by decide)

theorem run_ofDatabase_stall :
    ofDatabase.run stall = (.ok (recording stall.database), stall) := by
  refine run_ofDatabase ?_
  rw [recordedObjects_stall]
  exact List.forall_mem_singleton.mpr
    { proper := proper_itemTable
      found := rfl
      width := by decide }

/-- The statements of a stall are run in order. -/
theorem runsInOrder_stall :
    (∀ o ∈ recordedObjects stall.database, o.Replayable) ∧
      (recording stall.database).RunsInOrder (recordedObjects stall.database) epoch := by
  have replayable : ∀ o ∈ recordedObjects stall.database, o.Replayable := by
    have item : isReserved "item" = false := by decide
    have codes : isReserved "codes" = false := by decide
    rw [recordedObjects_stall]
    refine List.forall_mem_cons.mpr ⟨⟨⟨_, parsed_itemTable, rfl⟩, item⟩, ?_⟩
    refine List.forall_mem_cons.mpr ⟨⟨⟨_, parsed_codesView, rfl⟩, codes⟩, ?_⟩
    refine List.forall_mem_cons.mpr ⟨⟨⟨_, parsed_codeIndex, rfl⟩, item⟩, ?_⟩
    exact List.forall_mem_singleton.mpr ⟨⟨_, parsed_itemTrigger, rfl⟩, item⟩
  have tabled : Tabled (recordedObjects stall.database) := by
    rw [recordedObjects_stall]
    decide
  exact ⟨replayable, (runsInOrder_iff_tabled run_ofDatabase_stall replayable epoch).1.mpr tabled⟩

/-- With a code that is deleted from the view goes the item. -/
def codesTrigger : Trigger where
  name := "code_gone"
  table := "codes"
  time := .insteadOf
  event := .delete
  condition := .literal (.integer 1)
  body := (itemTrigger 82).body
  text := "CREATE TRIGGER code_gone INSTEAD OF DELETE ON codes BEGIN " ++
    "DELETE FROM item WHERE code = OLD.code; END"

/-- Items whose codes can be deleted through a view. -/
def kiosk : Connection :=
  .ofDatabase ⟨[.table (itemTable 54), .view codesView, .trigger codesTrigger], []⟩ epoch

/-- What the engine says where it refuses to go on. -/
def refusal? {α : Type} : Except Failure α → Option String
  | .error (.engine e) => some e.fault.text
  | _ => none

/-- **The trigger of a view has its turn before the view, so the database cannot be restored.** -/
theorem not_runsInOrder_kiosk :
    ((ofDatabase.run kiosk).1.toOption.bind fun doc =>
      refusal? (doc.restore.run (.ofDatabase .empty epoch)).1) =
        some "no such table: main.codes" ∧
      ∀ doc, ¬RunsInOrder doc (recordedObjects kiosk.database) epoch := by
  have untabled : ¬Tabled (recordedObjects kiosk.database) := by
    rw [recordedObjects_eq_objects (by decide)]
    decide
  exact ⟨by decide +kernel, fun doc h => untabled (inOrder_replayed_iff.mp h.ordered)⟩

end Document

end FilterStore
