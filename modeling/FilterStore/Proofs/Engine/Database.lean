import FilterStore.Engine.Definition

/-!
# Looking into databases

What is found under a name in a database, and what is found there after a table has changed or an
object has been added.
-/

namespace FilterStore.Engine

open Text (sameName)

/-! ## Rows -/

/-- A table before it has rows. -/
def Table.bare (t : Table) : Table := { t with rows := [] }

theorem mem_insertRow {row r : Row} {rows : List Row} (h : r ∈ insertRow row rows) :
    r = row ∨ r ∈ rows := by
  induction rows with
  | nil => exact .inl (List.mem_singleton.mp h)
  | cons s rows ih =>
    unfold insertRow at h
    split at h
    · exact List.mem_cons.mp h
    · rcases List.mem_cons.mp h with rfl | h
      · exact .inr List.mem_cons_self
      · exact (ih h).imp_right (List.mem_cons_of_mem s)

/-- A row with a number above all others goes to the end. -/
theorem insertRow_of_above {row : Row} {rows : List Row} (h : ∀ r ∈ rows, r.id < row.id) :
    insertRow row rows = rows ++ [row] := by
  induction rows with
  | nil => rfl
  | cons r rows ih =>
    have above : ¬row.id < r.id := fun below =>
      Int64.lt_irrefl (Int64.lt_trans below (h r List.mem_cons_self))
    unfold insertRow
    rw [if_neg above, ih fun s hs => h s (List.mem_cons_of_mem r hs)]
    rfl

/-! ## Tables that change -/

namespace Database

variable {α : Type} (d : Database) (name : String) (f : Table → Table)

/-- Changing tables does not change what is no table. -/
theorem filterMap_modifyTables {g : SchemaObject → Option α} (hg : ∀ t, g (.table t) = none)
    (os : List SchemaObject) : (modifyTables name f os).filterMap g = os.filterMap g := by
  unfold modifyTables
  rw [List.filterMap_map]
  congr 1
  funext o
  cases o with
  | table t =>
    simp only [Function.comp_apply]
    split <;> simp only [hg]
  | index | trigger | view => rfl

theorem tables_modifyTables (os : List SchemaObject) :
    (modifyTables name f os).filterMap SchemaObject.table? =
      (os.filterMap SchemaObject.table?).map fun t => if sameName t.name name then f t else t := by
  unfold modifyTables
  rw [List.filterMap_map, List.map_filterMap]
  congr 1
  funext o
  cases o with
  | table t =>
    simp only [Function.comp_apply]
    split <;> simp_all [SchemaObject.table?]
  | index | trigger | view => rfl

theorem filterMap_modifyTable {g : SchemaObject → Option α} (hg : ∀ t, g (.table t) = none) :
    (d.modifyTable name f).objects.filterMap g = d.objects.filterMap g ∧
      (d.modifyTable name f).temporary.filterMap g = d.temporary.filterMap g := by
  unfold modifyTable
  split
  · exact ⟨rfl, filterMap_modifyTables name f hg _⟩
  · exact ⟨filterMap_modifyTables name f hg _, rfl⟩

@[simp] theorem triggers_modifyTable : (d.modifyTable name f).triggers = d.triggers := by
  obtain ⟨objects, temporary⟩ :=
    d.filterMap_modifyTable name f (g := SchemaObject.trigger?) fun _ => rfl
  unfold triggers
  rw [objects, temporary]

@[simp] theorem triggersOf_modifyTable (table : String) :
    (d.modifyTable name f).triggersOf table = d.triggersOf table := by
  unfold triggersOf
  rw [triggers_modifyTable]

@[simp] theorem indexesOf_modifyTable (table : String) :
    (d.modifyTable name f).indexesOf table = d.indexesOf table := by
  obtain ⟨objects, temporary⟩ :=
    d.filterMap_modifyTable name f (g := SchemaObject.index?) fun _ => rfl
  unfold indexesOf all
  rw [List.filterMap_append, objects, temporary, ← List.filterMap_append]

@[simp] theorem view?_modifyTable (view : String) :
    (d.modifyTable name f).view? view = d.view? view := by
  obtain ⟨objects, temporary⟩ :=
    d.filterMap_modifyTable name f (g := SchemaObject.view?) fun _ => rfl
  unfold view? views all
  rw [List.filterMap_append, objects, temporary, ← List.filterMap_append]

theorem find?_changed {p : Table → Bool} {f : Table → Table} (hf : ∀ t, p (f t) = p t)
    (ts : List Table) :
    (ts.map fun t => if p t then f t else t).find? p = (ts.find? p).map f := by
  induction ts with
  | nil => rfl
  | cons t ts ih =>
    rw [List.map_cons, List.find?_cons, List.find?_cons]
    by_cases ht : p t = true
    · simp [ht, hf]
    · simp only [ht, if_false, ih, Bool.false_eq_true]

theorem table?_modifyTable {f : Table → Table} (hf : ∀ t, (f t).name = t.name) :
    (d.modifyTable name f).table? name = (d.table? name).map f := by
  have keeps : ∀ t, sameName (f t).name name = sameName t.name name := fun t => by rw [hf]
  unfold table? all modifyTable
  split
  case isTrue temporary =>
    rw [List.filterMap_append, List.filterMap_append, List.find?_append, List.find?_append,
      tables_modifyTables, find?_changed keeps]
    obtain ⟨u, hu⟩ := Option.isSome_iff_exists.mp
      (List.find?_isSome.mpr (List.any_eq_true.mp temporary))
    rw [hu]
    rfl
  case isFalse permanent =>
    have none : (d.temporary.filterMap SchemaObject.table?).find?
        (fun t => sameName t.name name) = none := by
      refine List.find?_eq_none.mpr fun t ht same => permanent ?_
      exact List.any_eq_true.mpr ⟨t, ht, same⟩
    rw [List.filterMap_append, List.filterMap_append, List.find?_append, List.find?_append,
      tables_modifyTables, find?_changed keeps, none]
    rfl

theorem find?_changed_other {p q : Table → Bool} {f : Table → Table} (hf : ∀ t, q (f t) = q t)
    (apart : ∀ t, p t = true → q t = false) (ts : List Table) :
    (ts.map fun t => if p t then f t else t).find? q = ts.find? q := by
  induction ts with
  | nil => rfl
  | cons t ts ih =>
    rw [List.map_cons, List.find?_cons, List.find?_cons, ih]
    by_cases ht : p t = true
    · simp [ht, hf, apart t ht]
    · simp only [ht, if_false, Bool.false_eq_true]

/-- Changing the table of a name does not change what is found under another. -/
theorem table?_modifyTable_other {f : Table → Table} (hf : ∀ t, (f t).name = t.name)
    {other : String} (apart : sameName name other = false) :
    (d.modifyTable name f).table? other = d.table? other := by
  have keeps : ∀ t, sameName (f t).name other = sameName t.name other := fun t => by rw [hf]
  have differs : ∀ t : Table, sameName t.name name = true → sameName t.name other = false :=
    fun t same => by
      rw [← apart]
      unfold sameName
      rw [Text.sameName_iff.mp same]
  unfold table? all modifyTable
  split <;> rw [List.filterMap_append, List.filterMap_append, List.find?_append, List.find?_append,
    tables_modifyTables, find?_changed_other keeps differs]

/-- Changing rows leaves the names of the objects and what the tables are made of. -/
theorem names_modifyTables {f : Table → Table} (hf : ∀ t, (f t).name = t.name)
    (os : List SchemaObject) :
    (modifyTables name f os).map SchemaObject.name = os.map SchemaObject.name := by
  unfold modifyTables
  rw [List.map_map]
  refine List.map_congr_left fun o _ => ?_
  cases o with
  | table t =>
    simp only [Function.comp_apply]
    split
    · exact hf t
    · rfl
  | index | trigger | view => rfl

theorem names_modifyTable {f : Table → Table} (hf : ∀ t, (f t).name = t.name) :
    (d.modifyTable name f).temporary.map SchemaObject.name =
      d.temporary.map SchemaObject.name := by
  unfold modifyTable
  split
  · exact names_modifyTables name hf _
  · rfl

theorem parts_modifyTable {f : Table → Table} (hf : ∀ t, (f t).parts = t.parts) :
    (d.modifyTable name f).tables.map Table.parts = d.tables.map Table.parts := by
  unfold modifyTable
  split
  · rfl
  · unfold tables
    rw [tables_modifyTables, List.map_map]
    refine List.map_congr_left fun t _ => ?_
    simp only [Function.comp_apply]
    split
    · exact hf t
    · rfl

/-! ## Databases with one more row -/

/-- A database with one more row in the table of a name. -/
def withRow (table : String) (row : Row) : Database :=
  d.modifyTable table fun t => { t with rows := insertRow row t.rows }

theorem table?_withRow {t : Table} {row : Row} (found : d.table? t.name = some t)
    (above : ∀ r ∈ t.rows, r.id < row.id) :
    (d.withRow t.name row).table? t.name = some { t with rows := t.rows ++ [row] } := by
  unfold withRow
  rw [d.table?_modifyTable (f := fun t => { t with rows := insertRow row t.rows }) t.name
    fun _ => rfl, found, Option.map_some, insertRow_of_above above]

/-! ## Databases that differ in some tables -/

/-- Two databases have the same indexes and triggers, and the same tables but for those of some
names. -/
structure AlikeBut (names : List String) (before after : Database) : Prop where
  table? : ∀ name, (∀ n ∈ names, sameName n name = false) → after.table? name = before.table? name
  triggersOf : ∀ table, after.triggersOf table = before.triggersOf table
  indexesOf : ∀ table, after.indexesOf table = before.indexesOf table

namespace AlikeBut

variable {names : List String} {d₁ d₂ d₃ : Database}

theorem refl (names : List String) (d : Database) : AlikeBut names d d :=
  ⟨fun _ _ => rfl, fun _ => rfl, fun _ => rfl⟩

theorem trans (first : AlikeBut names d₁ d₂) (second : AlikeBut names d₂ d₃) :
    AlikeBut names d₁ d₃ where
  table? name other := (second.table? name other).trans (first.table? name other)
  triggersOf table := (second.triggersOf table).trans (first.triggersOf table)
  indexesOf table := (second.indexesOf table).trans (first.indexesOf table)

theorem mono {more : List String} (h : AlikeBut names d₁ d₂) (sub : names ⊆ more) :
    AlikeBut more d₁ d₂ where
  table? name other := h.table? name fun n hn => other n (sub hn)
  triggersOf := h.triggersOf
  indexesOf := h.indexesOf

end AlikeBut

theorem alikeBut_modifyTable {f : Table → Table} (hf : ∀ t, (f t).name = t.name) :
    AlikeBut [name] d (d.modifyTable name f) where
  table? _ apart := d.table?_modifyTable_other name hf (apart name List.mem_cons_self)
  triggersOf table := d.triggersOf_modifyTable name f table
  indexesOf table := d.indexesOf_modifyTable name f table

/-! ## Objects that are added -/

section Add

variable (o : SchemaObject)

theorem filterMap_add {g : SchemaObject → Option α} (hg : g o = none) :
    (d.add false o).objects.filterMap g = d.objects.filterMap g := by
  have added : (d.add false o).objects = d.objects ++ [o] := rfl
  rw [added, List.filterMap_append, List.filterMap_cons_none hg, List.filterMap_nil,
    List.append_nil]

theorem triggersOf_add (ho : o.trigger? = none) (table : String) :
    (d.add false o).triggersOf table = d.triggersOf table := by
  unfold triggersOf triggers
  rw [d.filterMap_add o ho]
  rfl

theorem indexesOf_add (ho : o.index? = none) (table : String) :
    (d.add false o).indexesOf table = d.indexesOf table := by
  unfold indexesOf all
  rw [List.filterMap_append, d.filterMap_add o ho, List.filterMap_append]
  rfl

theorem view?_add (ho : o.view? = none) (view : String) :
    (d.add false o).view? view = d.view? view := by
  unfold view? views all
  rw [List.filterMap_append, d.filterMap_add o ho, List.filterMap_append]
  rfl

/-- A table that is added is found if none of its name was. -/
theorem table?_add {t : Table} (h : d.table? t.name = none) :
    (d.add false (.table t)).table? t.name = some t := by
  unfold table? all at h ⊢
  have added : (d.add false (.table t)).temporary ++ (d.add false (.table t)).objects =
      (d.temporary ++ d.objects) ++ [.table t] := (List.append_assoc ..).symm
  rw [added, List.filterMap_append, List.find?_append, h]
  simp [SchemaObject.table?]

/-- A table that is added is not found under another name. -/
theorem table?_add_other {t : Table} (h : sameName t.name name = false) :
    (d.add false (.table t)).table? name = d.table? name := by
  unfold table? all
  have added : (d.add false (.table t)).temporary ++ (d.add false (.table t)).objects =
      (d.temporary ++ d.objects) ++ [.table t] := (List.append_assoc ..).symm
  rw [added, List.filterMap_append, List.find?_append]
  simp [SchemaObject.table?, h]

theorem table?_add_none (ho : o.table? = none) : (d.add false o).table? name = d.table? name := by
  unfold table? all
  rw [List.filterMap_append, d.filterMap_add o ho, List.filterMap_append]
  rfl

theorem tables_add (t : Table) : (d.add false (.table t)).tables = d.tables ++ [t] := by
  have added : (d.add false (.table t)).objects = d.objects ++ [.table t] := rfl
  unfold tables
  rw [added, List.filterMap_append]
  rfl

end Add

/-! ## Objects that are found -/

theorem object?_kind {kinds : List Sql.ObjectKind} {o : SchemaObject}
    (h : d.object? kinds name = some o) : kinds.contains o.kind ∧ sameName o.name name := by
  have found := List.find?_some h
  rwa [Bool.and_eq_true] at found

theorem table?_of_object? {t : Table} (h : d.object? [.table, .view] name = some (.table t)) :
    d.table? name = some t := by
  unfold object? at h
  unfold table?
  generalize d.all = os at h ⊢
  induction os with
  | nil => cases h
  | cons o os ih =>
    rw [List.find?_cons] at h
    cases o with
    | table u =>
      by_cases same : sameName u.name name = true
      · have matched : ([.table, .view].contains (SchemaObject.table u).kind &&
            sameName (SchemaObject.table u).name name) = true := same
        simp only [matched, Option.some.injEq, SchemaObject.table.injEq] at h
        subst h
        exact List.find?_cons_of_pos same
      · have unmatched : ([.table, .view].contains (SchemaObject.table u).kind &&
            sameName (SchemaObject.table u).name name) = false := Bool.eq_false_iff.mpr same
        simp only [unmatched] at h
        exact (List.find?_cons_of_neg (p := fun t : Table => sameName t.name name) same).trans
          (ih h)
    | view v =>
      split at h
      · cases h
      · exact ih h
    | index i => exact ih h
    | trigger g => exact ih h

/-- Where a name is taken for a table or a view, there is one. -/
theorem table?_or_view?_of_objectIn? (h : (d.objectIn? false [.table, .view] name).isSome) :
    (d.table? name).isSome ∨ (d.view? name).isSome := by
  obtain ⟨o, ho⟩ := Option.isSome_iff_exists.mp h
  have mem : o ∈ d.all := List.mem_append_right _ (List.mem_of_find?_eq_some ho)
  have found := List.find?_some ho
  rw [Bool.and_eq_true] at found
  cases o with
  | table t =>
    refine .inl (List.find?_isSome.mpr ⟨t, ?_, found.2⟩)
    exact List.mem_filterMap.mpr ⟨_, mem, rfl⟩
  | view v =>
    refine .inr (List.find?_isSome.mpr ⟨v, ?_, found.2⟩)
    exact List.mem_filterMap.mpr ⟨_, mem, rfl⟩
  | index i => cases found.1
  | trigger g => cases found.1

/-- Where no table or view has a name, and no temporary object has it, there is no table of it. -/
theorem table?_eq_none_of_objectIn? (h : d.objectIn? false [.table, .view] name = none)
    (permanent : ∀ o ∈ d.temporary, sameName o.name name = false) : d.table? name = none := by
  refine List.find?_eq_none.mpr fun t ht same => ?_
  obtain ⟨o, ho, table⟩ := List.mem_filterMap.mp ht
  cases o with
  | table u =>
    obtain rfl : u = t := Option.some.inj table
    rcases List.mem_append.mp ho with ho | ho
    · have other := permanent _ ho
      exact Bool.false_ne_true (other.symm.trans same)
    · refine List.find?_eq_none.mp h _ ho ?_
      exact same
  | index | trigger | view => cases table

end Database

end FilterStore.Engine
