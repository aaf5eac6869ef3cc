import FilterStore.Proofs.Engine.Definition

/-!
# Objects that are created

Indexes and triggers are attached to a table or a view, their *owner*.  A definition that creates an
object adds what it creates, and at most the table of the numbers besides; all that was there stays
(`Step.adds_define`).  If it succeeds, the object is there under its name, whether it is new or had
been there before, and what an index or a trigger is attached to was there already
(`hasOwner_of_define_ok`).
-/

namespace FilterStore.Engine

open Sql (Creation Definition Fault TableParts)
open Text (sameName)

namespace SchemaObject

/-- Whether indexes and triggers may be attached to an object. -/
def IsOwner (o : SchemaObject) : Prop := o.kind = .table ∨ o.kind = .view

/-- Whether an object is attached to another one. -/
def IsAttached (o : SchemaObject) : Prop := o.kind = .index ∨ o.kind = .trigger

instance (o : SchemaObject) : Decidable o.IsOwner := inferInstanceAs (Decidable (_ ∨ _))

instance (o : SchemaObject) : Decidable o.IsAttached := inferInstanceAs (Decidable (_ ∨ _))

end SchemaObject

theorem Index.not_isOwner (i : Index) : ¬(SchemaObject.index i).IsOwner := nofun

theorem Trigger.not_isOwner (g : Trigger) : ¬(SchemaObject.trigger g).IsOwner := nofun

/-- A table or a view of a name is there. -/
def Database.HasOwner (d : Database) (name : String) : Prop :=
  ∃ o ∈ d.all, o.IsOwner ∧ sameName o.name name

/-- Whether a definition creates an object of the same kind with the same name, or attached to the
same table or view. -/
def creates : Definition → SchemaObject → Bool
  | .createTable n _ _ _, .table t => sameName n.name t.name
  | .createView n _ _ _, .view v => sameName n.name v.name
  | .createIndex _ _ _ table _ _ _, .index i => sameName table i.table
  | .createTrigger _ table _ _ _ _ _, .trigger g => sameName table g.table
  | _, _ => false

/-! ## Owners that are there -/

namespace Database

variable {d : Database} {name : String}

theorem mem_all_add {temporary : Bool} {o x : SchemaObject} :
    x ∈ (d.add temporary o).all ↔ x ∈ d.all ∨ x = o := by
  unfold add all
  cases temporary with
  | false => simp [or_assoc]
  | true => simp [or_assoc, or_comm]

theorem hasOwner_iff_object? :
    d.HasOwner name ↔ (d.object? [.table, .view] name).isSome := by
  unfold HasOwner object?
  rw [List.find?_isSome]
  refine exists_congr fun o => and_congr_right fun _ => ?_
  rw [Bool.and_eq_true, SchemaObject.IsOwner]
  refine and_congr_left fun _ => ?_
  simp

theorem hasOwner_of_objectIn? {temporary : Bool}
    (h : (d.objectIn? temporary [.table, .view] name).isSome) : d.HasOwner name := by
  obtain ⟨o, ho, found⟩ := List.find?_isSome.mp h
  obtain ⟨kind, same⟩ := Bool.and_eq_true_iff.mp found
  refine ⟨o, ?_, by simpa [SchemaObject.IsOwner] using kind, same⟩
  cases temporary with
  | false => exact List.mem_append_right _ ho
  | true => exact List.mem_append_left _ ho

theorem hasOwner_of_table? (h : (d.table? name).isSome) : d.HasOwner name := by
  obtain ⟨t, ht, same⟩ := List.find?_isSome.mp h
  obtain ⟨o, ho, table⟩ := List.mem_filterMap.mp ht
  cases o with
  | table u =>
    obtain rfl : u = t := Option.some.inj table
    exact ⟨_, ho, .inl rfl, same⟩
  | index | trigger | view => cases table

theorem hasOwner_congr {a b : String} (h : sameName a b) : d.HasOwner a ↔ d.HasOwner b := by
  unfold HasOwner sameName
  rw [Text.sameName_iff.mp h]

end Database

/-! ## Steps that add objects -/

/-- Objects that fulfil a condition are added to a database, and those that were there stay. -/
structure Connection.Grows (P : SchemaObject → Prop) (c c' : Connection) : Prop where
  numberings : c'.numberings = c.numberings
  kept : c.database.all ⊆ c'.database.all
  added : ∀ o ∈ c'.database.all, o ∈ c.database.all ∨ P o

namespace Connection.Grows

variable {P : SchemaObject → Prop} {c c₁ c₂ : Connection}

theorem refl (c : Connection) : c.Grows P c := ⟨rfl, fun _ => id, fun _ => .inl⟩

theorem trans (first : c.Grows P c₁) (second : c₁.Grows P c₂) : c.Grows P c₂ where
  numberings := second.numberings.trans first.numberings
  kept := List.Subset.trans first.kept second.kept
  added o ho := by
    rcases second.added o ho with ho | new
    · exact first.added o ho
    · exact .inr new

theorem add (temporary : Bool) {o : SchemaObject} (ho : P o) :
    c.Grows P { c with database := c.database.add temporary o } where
  numberings := rfl
  kept _ hx := Database.mem_all_add.mpr (.inl hx)
  added x hx := (Database.mem_all_add.mp hx).imp_right fun same : x = o => same ▸ ho

theorem mono {Q : SchemaObject → Prop} (h : c.Grows P c₁) (weaker : ∀ o, P o → Q o) :
    c.Grows Q c₁ := ⟨h.numberings, h.kept, fun o ho => (h.added o ho).imp_right (weaker o)⟩

theorem hasOwner (h : c.Grows P c₁) {name : String} (owner : c.database.HasOwner name) :
    c₁.database.HasOwner name := by
  obtain ⟨o, ho, named⟩ := owner
  exact ⟨o, h.kept ho, named⟩

end Connection.Grows

/-! ## What is created -/

section Created

variable {c c' : Connection}

theorem of_isOwn_ok {name : String} {own : Bool} (h : (Step.isOwn name).run c = (.ok own, c')) :
    c' = c ∧ (own = true → isReserved name = true) := by
  unfold Step.isOwn at h
  simp only [run_bind, run_get, run_pure] at h
  cases h
  exact ⟨rfl, fun own => (Bool.and_eq_true_iff.mp own).1⟩

/-- A table that is created is there, and is the only owner that is new but for the engine's own. -/
theorem of_run_createTable_ok {n : Creation} {parts : TableParts} {text rest : String}
    (h : (Step.createTable n parts text rest).run c = (.ok (), c')) :
    c'.database.HasOwner n.name ∧
      c.Grows (fun o => isReserved o.name ∨ sameName o.name n.name) c' := by
  let t : Table := ⟨n.name, parts, text, rest, []⟩
  obtain ⟨taken, rfl⟩ | ⟨-, numbered⟩ := exists_of_createTable_ok h
  · exact ⟨Database.hasOwner_of_objectIn? taken, .refl _⟩
  have first : c.Grows (fun o => isReserved o.name ∨ sameName o.name n.name)
      { c with database := c.database.add n.temporary (.table t) } :=
    .add _ (.inr (Text.sameName_refl n.name))
  have there : (c.database.add n.temporary (.table t)).HasOwner n.name :=
    ⟨.table t, Database.mem_all_add.mpr (.inr rfl), .inl rfl, Text.sameName_refl n.name⟩
  have numbering : isReserved Database.emptyNumbering.name = true := by decide +kernel
  have second : ({ c with database := c.database.add n.temporary (.table t) } : Connection).Grows
      (fun o => isReserved o.name ∨ sameName o.name n.name) c' := by
    split at numbered
    · unfold Step.createNumbering at numbered
      obtain ⟨_, _, ⟨⟩, added⟩ := exists_of_run_bind_ok numbered
      split at added
      · cases added
        exact .add false (.inl numbering)
      · cases added
        exact .refl _
    · cases numbered
      exact .refl _
  exact ⟨second.hasOwner there, first.trans second⟩

/-- A view that is created is there, and is the only owner that is new. -/
theorem of_run_createView_ok {n : Creation} {v : View} (named : v.name = n.name)
    (h : (Step.createView n v).run c = (.ok (), c')) :
    c'.database.HasOwner n.name ∧
      c.Grows (fun o => isReserved o.name ∨ sameName o.name n.name) c' := by
  unfold Step.createView at h
  obtain ⟨-, closed⟩ := of_run_guard_ok h
  obtain ⟨free, c₁, asked, added⟩ := exists_of_run_bind_ok closed
  obtain ⟨rfl, found⟩ := of_nameIsFree_ok asked
  cases free with
  | false =>
    cases added
    exact ⟨Database.hasOwner_of_objectIn? (Option.isNone_eq_false_iff.mp found.symm), .refl _⟩
  | true =>
    cases added
    have same : sameName v.name n.name := named ▸ Text.sameName_refl v.name
    exact ⟨⟨.view v, Database.mem_all_add.mpr (.inr rfl), .inr rfl, same⟩, .add _ (.inr same)⟩

theorem of_indexedTable_ok {name : String} {t : Table}
    (h : (Step.indexedTable name).run c = (.ok t, c')) :
    c' = c ∧ c.database.table? name = some t := by
  unfold Step.indexedTable at h
  obtain ⟨_, _, ⟨⟩, viewless⟩ := exists_of_run_bind_ok h
  obtain ⟨-, unviewed⟩ := of_run_guard_ok viewless
  obtain ⟨own, c₁, asked, foreign⟩ := exists_of_run_bind_ok unviewed
  obtain ⟨rfl, -⟩ := of_isOwn_ok asked
  obtain ⟨-, sought⟩ := of_run_guard_ok foreign
  rcases found : c₁.database.table? name with _ | u
  · simp only [found] at sought
    cases sought
  · simp only [found] at sought
    cases sought
    exact ⟨rfl, rfl⟩

theorem of_requireDistinct_ok {w : World} {t : Table} {u : Uniqueness} {rows : List Row}
    (h : (Step.requireDistinct w t u rows).run c = (.ok (), c')) : c' = c := by
  induction rows with
  | nil =>
    cases h
    rfl
  | cons row rows ih =>
    unfold Step.requireDistinct at h
    obtain ⟨rival, c₁, sought, others⟩ := exists_of_run_bind_ok h
    obtain rfl := of_run_ofExcept_ok sought
    cases rival with
    | none => exact ih others
    | some => cases others

/-- What an index is created on is there, and no owner is new. -/
theorem of_run_createIndex_ok {ifNotExists : Bool} {i : Index}
    (h : (Step.createIndex ifNotExists i).run c = (.ok (), c')) :
    c.database.HasOwner i.table ∧ c.Grows (fun o => ¬o.IsOwner) c' := by
  unfold Step.createIndex at h
  obtain ⟨t, c₁, sought, named⟩ := exists_of_run_bind_ok h
  obtain ⟨rfl, found⟩ := of_indexedTable_ok sought
  refine ⟨Database.hasOwner_of_table? (Option.isSome_of_eq_some found), ?_⟩
  obtain ⟨⟨⟩, c₂, checked, free⟩ := exists_of_run_bind_ok named
  obtain rfl := of_run_ofExcept_ok checked
  obtain ⟨_, _, ⟨⟩, untaken⟩ := exists_of_run_bind_ok free
  obtain ⟨-, tried⟩ := of_run_guard_ok untaken
  have added : ∀ {temporary : Bool} {i : Index}, c₂.Grows (fun o => ¬o.IsOwner)
      { c₂ with database := c₂.database.add temporary (.index i) } :=
    fun {temporary i} => .add temporary i.not_isOwner
  dsimp only at tried
  split at tried
  · split at tried
    · cases tried
    · cases tried
      exact .refl _
  obtain ⟨_, _, ⟨⟩, made⟩ := exists_of_run_bind_ok tried
  obtain ⟨⟨⟩, c₃, sound, distinct⟩ := exists_of_run_bind_ok made
  obtain rfl := of_run_ofExcept_ok sound
  split at distinct
  · obtain ⟨w, _, ⟨⟩, compared⟩ := exists_of_run_bind_ok distinct
    obtain ⟨⟨⟩, c₄, apart, last⟩ := exists_of_run_bind_ok compared
    obtain rfl := of_requireDistinct_ok apart
    cases last
    exact added
  · cases distinct
    exact added

theorem of_triggeredObject_ok {table : String} {owner : Option SchemaObject}
    (unreserved : isReserved table = false)
    (h : (Step.triggeredObject table).run c = (.ok owner, c')) :
    c' = c ∧ c.database.HasOwner table := by
  unfold Step.triggeredObject at h
  obtain ⟨_, _, ⟨⟩, sought⟩ := exists_of_run_bind_ok h
  rcases found : c.database.object? [.table, .view] table with _ | o
  · simp only [found] at sought
    obtain ⟨own, c₁, asked, named⟩ := exists_of_run_bind_ok sought
    obtain ⟨rfl, reserved⟩ := of_isOwn_ok asked
    cases own with
    | false => cases named
    | true => exact absurd (reserved rfl) (Bool.eq_false_iff.mp unreserved)
  · simp only [found] at sought
    cases sought
    exact ⟨rfl, Database.hasOwner_iff_object?.mpr (Option.isSome_of_eq_some found)⟩

/-- What a trigger is created on is there, and no owner is new. -/
theorem of_run_createTrigger_ok {n : Creation} {g : Trigger} (unreserved : isReserved g.table = false)
    (h : (Step.createTrigger n g).run c = (.ok (), c')) :
    c.database.HasOwner g.table ∧ c.Grows (fun o => ¬o.IsOwner) c' := by
  unfold Step.createTrigger at h
  obtain ⟨_, _, ⟨⟩, sought⟩ := exists_of_run_bind_ok h
  obtain ⟨owner, c₁, found, named⟩ := exists_of_run_bind_ok sought
  obtain ⟨rfl, there⟩ := of_triggeredObject_ok unreserved found
  refine ⟨there, ?_⟩
  obtain ⟨⟨⟩, c₂, checked, free⟩ := exists_of_run_bind_ok named
  obtain rfl := of_run_ofExcept_ok checked
  dsimp only at free
  split at free
  · split at free
    · cases free
    · cases free
      exact .refl _
  split at free
  · cases free
  obtain ⟨-, timely⟩ := of_run_guard_ok free
  obtain ⟨-, added⟩ := of_run_guard_ok timely
  cases added
  exact .add _ g.not_isOwner

end Created

/-! ## Definitions -/

/-- An object has been created, or was there: what it is attached to was there before, and no other
owner is new but the engine's own. -/
structure Connection.Created (o : SchemaObject) (c c' : Connection) : Prop where
  there : c'.database.HasOwner o.tableName
  before : o.IsAttached → c.database.HasOwner o.tableName
  grows : c.Grows (fun x => x.IsOwner → isReserved x.name ∨ o.IsOwner ∧ sameName x.name o.name) c'

section Definitions

variable {c c' : Connection} {o : SchemaObject} {name : String}

/-- A table or a view belongs to itself. -/
theorem SchemaObject.IsOwner.tableName_eq (owner : o.IsOwner) : o.tableName = o.name := by
  cases o with
  | table | view => rfl
  | index | trigger => rcases owner with kind | kind <;> cases kind

theorem SchemaObject.isAttached_iff : o.IsAttached ↔ ¬o.IsOwner := by
  cases o <;> simp [SchemaObject.IsAttached, SchemaObject.IsOwner, SchemaObject.kind]

theorem created_of_owner (owner : o.IsOwner) (same : sameName name o.name)
    (h : c'.database.HasOwner name ∧
      c.Grows (fun x => isReserved x.name ∨ sameName x.name name) c') : c.Created o c' where
  there := by
    rw [owner.tableName_eq]
    exact (Database.hasOwner_congr same).mp h.1
  before attached := absurd owner (SchemaObject.isAttached_iff.mp attached)
  grows := h.2.mono fun _ new _ => new.imp_right fun named =>
    ⟨owner, Text.sameName_trans named same⟩

theorem created_of_attached (same : sameName name o.tableName)
    (h : c.database.HasOwner name ∧ c.Grows (fun x => ¬x.IsOwner) c') : c.Created o c' :=
  have before := (Database.hasOwner_congr same).mp h.1
  { there := h.2.hasOwner before
    before := fun _ => before
    grows := h.2.mono fun _ attached owner => absurd owner attached }

/-- A definition that creates an object has done so if it succeeds. -/
theorem created_of_define_ok {d : Definition} {hs : List String} (made : creates d o)
    (unreserved : isReserved o.tableName = false)
    (h : (Step.define d).run c = (.ok hs, c')) : c.Created o c' := by
  cases d with
  | createTable n parts text rest =>
    cases o with
    | table t =>
      have done : (Step.createTable n parts text rest).run c = (.ok (), c') := of_run_silent_ok h
      have same : sameName n.name t.name := made
      exact created_of_owner (.inl rfl) same (of_run_createTable_ok done)
    | index | trigger | view => cases made
  | createView n columns query text =>
    cases o with
    | view v =>
      let v' : View := ⟨n.name, columns, query, text⟩
      have done : (Step.createView n v').run c = (.ok (), c') := of_run_silent_ok h
      have same : sameName n.name v.name := made
      exact created_of_owner (.inr rfl) same (of_run_createView_ok rfl done)
    | table | index | trigger => cases made
  | createIndex ifNotExists unique name table terms condition text =>
    cases o with
    | index i =>
      let i' : Index := ⟨name, table, unique, terms, condition, text⟩
      have done : (Step.createIndex ifNotExists i').run c = (.ok (), c') := of_run_silent_ok h
      have same : sameName i'.table i.table := made
      exact created_of_attached same (of_run_createIndex_ok done)
    | table | trigger | view => cases made
  | createTrigger n table time event condition body text =>
    cases o with
    | trigger g =>
      let g' : Trigger := ⟨n.name, table, time, event, condition, body, text⟩
      have done : (Step.createTrigger n g').run c = (.ok (), c') := of_run_silent_ok h
      have same : sameName g'.table g.table := made
      have own : isReserved g'.table = false := (isReserved_congr same).trans unreserved
      exact created_of_attached same (of_run_createTrigger_ok own done)
    | table | index | view => cases made
  | addColumn | dropTable | dropIndex | dropTrigger | dropView => cases made

end Definitions

end FilterStore.Engine
