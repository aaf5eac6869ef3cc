import FilterStore.Proofs.Engine.Definition

/-!
# Creating objects

A table, an index or a trigger is created if its name is free and not one the engine keeps to
itself, if what it belongs to is there, and if nothing is wrong with its definition.  Then the
database has one object more.  With the first table that does not give numbers twice comes the table
for the numbers.

Where no table has rows, preparing a definition is the same as running it, so a batch that creates
an object succeeds if the definition does (`run_batch_of_define`).
-/

namespace FilterStore.Engine

open Sql (Creation Definition Expr ObjectKind Parsed TableParts)
open Text (sameName)

/-! ## Batches where there are no rows -/

/-- A connection behind a statement that has changed the schema. -/
def Connection.behind (c : Connection) (e : Database) : Connection :=
  { c with database := e, owedNow := 0, counted := 0, numberings := [] }

section Batch

variable {d : Definition} {text : String} {c : Connection} {e : Database}

/-- In a transaction a definition as a whole is what it does. -/
theorem run_whole_of_made {α : Type} {s : Step α} {a : α}
    (made : s.run (Step.atStart c) = (.ok a, c.behind e)) (opened : c.transaction.isSome) :
    (Step.whole s).run c = (.ok a, c.behind e) := by
  have settled : Step.settle.run (c.behind e) = (.ok (), c.behind e) :=
    Step.run_settle_of_opened rfl opened
  have recorded : Step.recordNumbers.run (c.behind e) = (.ok (), c.behind e) := rfl
  rw [Step.run_whole]
  simp only [run_bind, made, settled, recorded, run_pure]

/-- A batch of a definition that succeeds does what the definition does. -/
theorem run_batch_of_define (read : Parsed.ofText text = .ok (some ⟨.define d, 0, ""⟩))
    (made : (Step.define d).run (Step.atStart c) = (.ok [], c.behind e))
    (bare : c.database.emptied = c.database) (writable : c.readOnly = false)
    (opened : c.transaction.isSome) : (Action.batch text).run c = (.ok (), c.behind e) := by
  have tried : c.checkDefinition d = .ok () := by
    have same :
        ({ c with database := c.database.emptied, readOnly := false } : Connection) = c := by
      rw [bare, ← writable]
    have whole : ((Step.whole (Step.define d)).run.run c).1 = .ok [] :=
      congrArg Prod.fst (run_whole_of_made made opened)
    unfold Connection.checkDefinition
    simp only [same, whole]
  have prepared : prepare c text = .ok (some ⟨.define d, 0, ""⟩) := by
    unfold prepare
    rw [read]
    show (c.checkDefinition d >>= fun _ => Except.ok _) = _
    rw [tried]
    rfl
  have kept : (defined d c).run (Step.atStart c) = (.ok [], c.behind e) := by
    have unrefused : (c.behind e).readOnly = false := writable
    unfold defined
    simp only [run_bind, made, run_checkSchema, unrefused, Bool.false_and, Bool.false_eq_true,
      if_false, run_pure]
  rw [run_batch_define read, prepared]
  simp only [run_whole_of_made kept opened]

end Batch

/-! ## Names that are free -/

namespace Database

/-- No object of some kinds has a name. -/
def Free (d : Database) (kinds : List ObjectKind) (name : String) : Prop :=
  ∀ o ∈ d.all, kinds.contains o.kind = true → sameName o.name name = false

variable {d : Database} {kinds : List ObjectKind} {name : String}

theorem Free.object?_eq_none (h : d.Free kinds name) : d.object? kinds name = none :=
  List.find?_eq_none.mpr fun o ho taken => by
    rw [Bool.and_eq_true] at taken
    exact Bool.false_ne_true ((h o ho taken.1).symm.trans taken.2)

theorem Free.objectIn?_eq_none (h : d.Free kinds name) (temporary : Bool) :
    d.objectIn? temporary kinds name = none :=
  List.find?_eq_none.mpr fun o ho taken => by
    rw [Bool.and_eq_true] at taken
    have mem : o ∈ d.all := by
      unfold all
      cases temporary with
      | false => exact List.mem_append_right _ ho
      | true => exact List.mem_append_left _ ho
    exact Bool.false_ne_true ((h o mem taken.1).symm.trans taken.2)

theorem Free.mono (h : d.Free kinds name) (fewer : List ObjectKind) (sub : fewer ⊆ kinds) :
    d.Free fewer name := fun o ho kind => by
  rw [List.contains_iff_mem] at kind
  exact h o ho (List.contains_iff_mem.mpr (sub kind))

/-- Where there are no views, a table is what its name leads to. -/
theorem object?_of_table? {t : Table} (views : ∀ o ∈ d.all, o.kind ≠ .view)
    (found : d.table? name = some t) : d.object? [.table, .view] name = some (.table t) := by
  have some : (d.object? [.table, .view] name).isSome := by
    obtain ⟨o, mem, table⟩ := List.mem_filterMap.mp (List.mem_of_find?_eq_some found)
    have named := List.find?_some found
    refine List.find?_isSome.mpr ⟨o, mem, ?_⟩
    cases o with
    | table u =>
      obtain rfl : u = t := Option.some.inj table
      exact named
    | index | trigger | view => cases table
  obtain ⟨o, object⟩ := Option.isSome_iff_exists.mp some
  have kind := (d.object?_kind name object).1
  cases o with
  | table u => rw [object, Option.some.inj ((d.table?_of_object? name object).symm.trans found)]
  | view v => exact absurd rfl (views _ (List.mem_of_find?_eq_some object))
  | index i => cases kind
  | trigger g => cases kind

/-- A database with a new table, and with the table of the numbers if that comes with it. -/
def withTable (d : Database) (t : Table) : Database :=
  let d := d.add false (.table t)
  if t.isLasting && (d.table? numberingName).isNone then d.add false (.table emptyNumbering) else d

end Database

theorem checkName_of_unreserved {name : String} (h : isReserved name = false) :
    checkName name = .ok () := by
  unfold checkName
  simp [h]

theorem run_isOwn_of_unreserved {name : String} (h : isReserved name = false) (c : Connection) :
    (Step.isOwn name).run c = (.ok false, c) := by
  unfold Step.isOwn
  simp only [run_bind, run_get, h, Bool.false_and, run_pure]

section Creating

variable {c : Connection}

/-! ## Tables -/

section Tables

variable {n : Creation} (permanent : n.temporary = false) (unreserved : isReserved n.name = false)
  (free : c.database.Free [.table, .view, .index] n.name)

include permanent unreserved free

theorem run_nameIsFree_of_free : (Step.nameIsFree n).run c = (.ok true, c) := by
  have named := (free.mono [.table, .view] (by simp)).objectIn?_eq_none false
  have indexed := (free.mono [.index] (by simp)).objectIn?_eq_none false
  unfold Step.nameIsFree
  simp only [run_bind, run_get, Step.run_ofExcept, checkName_of_unreserved unreserved, mapError_ok,
    permanent, named, indexed]
  rfl

/-- A table whose name is free and whose definition is sound is added without rows. -/
theorem run_createTable {parts : TableParts} {text rest : String} (sound : parts.flaw = none)
    (checked : ∀ check ∈ parts.checks, checkExpr (c.world [] .check)
      [(⟨n.name, parts, text, rest, []⟩ : Table).relation.shape n.name] false check.expr = .ok ()) :
    (Step.createTable n parts text rest).run c =
      (.ok (), { c with
        database := c.database.withTable ⟨n.name, parts, text, rest, []⟩ }) := by
  have conditions : (parts.checks.forM fun check => Step.ofExcept (checkExpr (c.world [] .check)
      [(⟨n.name, parts, text, rest, []⟩ : Table).relation.shape n.name] false check.expr)).run c =
      (.ok (), c) :=
    run_forM_of_quiet fun check hc => by rw [Step.run_ofExcept, checked check hc, mapError_ok]
  unfold Step.createTable
  simp only [run_bind, run_nameIsFree_of_free permanent unreserved free, if_true, sound, run_get,
    conditions, permanent]
  unfold Database.withTable
  rcases lasting : (⟨n.name, parts, text, rest, []⟩ : Table).isLasting with _ | _
  · simp only [Bool.false_and, Bool.false_eq_true, if_false]
    rfl
  · simp only [Bool.true_and, if_true]
    show ((do
      let c' ← get
      if (c'.database.table? Database.numberingName).isNone then
        Step.addObject false (.table Database.emptyNumbering) else pure () : Step Unit).run
        { c with database := c.database.add false (.table ⟨n.name, parts, text, rest, []⟩) }) = _
    rw [run_bind, run_get]
    simp only []
    split <;> rfl

end Tables

/-! ## What belongs to a table -/

section Owned

variable {t : Table} {table : String} (permanent : c.database.temporary = [])
  (views : ∀ o ∈ c.database.all, o.kind ≠ .view) (found : c.database.table? table = some t)
  (own : isReserved table = false)

include permanent views found own

/-- A trigger of a table is added if its name is free. -/
theorem run_createTrigger {n : Creation} {g : Trigger} (of : g.table = table)
    (kept : n.temporary = false) (unreserved : isReserved g.name = false)
    (free : c.database.Free [.trigger] g.name) (time : g.time ≠ .insteadOf)
    (closed : Sql.haveParameters (g.condition :: g.body.flatMap Sql.Change.exprs) = false) :
    (Step.createTrigger n g).run c =
      (.ok (), { c with database := c.database.add false (.trigger g) }) := by
  subst of
  have owner : (Step.triggeredObject g.table).run c = (.ok (some (.table t)), c) := by
    unfold Step.triggeredObject
    simp only [run_bind, run_get, Database.object?_of_table? views found]
    rfl
  have temporary : c.database.isTemporary g.table = false := by
    unfold Database.isTemporary
    rw [permanent]
    rfl
  have timely : (decide ((SchemaObject.table t).kind = .view) != decide (g.time = .insteadOf)) =
      false := by
    rw [decide_eq_false time]
    rfl
  unfold Step.createTrigger
  simp only [run_bind, run_get, owner, Step.run_ofExcept, checkName_of_unreserved unreserved,
    mapError_ok, temporary, kept, Bool.or_self, free.objectIn?_eq_none, Option.isSome_none,
    Bool.false_eq_true, if_false, own, Option.map_some, Option.getD_some, timely, closed]
  rfl

/-- An index of a table without rows is added if its name is free. -/
theorem run_createIndex {i : Index} (of : i.table = table) (unreserved : isReserved i.name = false)
    (free : c.database.Free [.table, .view, .index] i.name) (empty : t.rows = [])
    (checked : Step.checkIndex c t i = .ok ()) (ifNotExists : Bool) :
    (Step.createIndex ifNotExists i).run c =
      (.ok (), { c with
        database := c.database.add false
          (.index { i with table := t.name, terms := i.terms.map t.indexTerm }) }) := by
  subst of
  have unviewed : c.database.view? i.table = none := by
    refine List.find?_eq_none.mpr fun v hv => ?_
    obtain ⟨o, ho, view⟩ := List.mem_filterMap.mp hv
    cases o with
    | view _ => exact absurd rfl (views _ ho)
    | table | index | trigger => cases view
  have owner : (Step.indexedTable i.table).run c = (.ok t, c) := by
    unfold Step.indexedTable
    simp only [run_bind, run_get, unviewed, Option.isSome_none, Bool.false_eq_true, if_false,
      run_isOwn_of_unreserved own, found, run_pure]
  have temporary : c.database.isTemporary t.name = false := by
    unfold Database.isTemporary
    rw [permanent]
    rfl
  have named := (free.mono [.table, .view] (by simp)).object?_eq_none
  have indexed : c.database.hasIndex i.name = false := by
    unfold Database.hasIndex
    rw [(free.mono [.index] (by simp)).object?_eq_none]
    rfl
  unfold Step.createIndex
  simp only [run_bind, run_get, owner, Step.run_ofExcept, checkName_of_unreserved unreserved,
    mapError_ok, named, Option.isSome_none, Bool.false_eq_true, if_false, indexed, checked, empty,
    temporary]
  split <;> rfl

end Owned

end Creating

end FilterStore.Engine
