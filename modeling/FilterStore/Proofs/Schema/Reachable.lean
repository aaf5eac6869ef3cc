import FilterStore.Proofs.Outcome
import FilterStore.Schema.Registry

/-!
# Registries that can come about

A registry is never written down.  It starts empty and is changed by a handful of *mutations*, each
of which answers with a new registry or with an error and no registry at all.  So whatever the empty
registry has and every mutation keeps, every registry has.

The first thing kept is that names are names: letters, numerals and underscores, at least one.  Two
places write tables and columns, `addTable` and `putColumn`, and both check the name before; all
other mutations move tables around as they are.
-/

namespace FilterStore

namespace Named

variable {α : Type} {nameOf : α → String}

/-- Putting a thing into a list brings nothing else into it. -/
theorem eq_or_mem_of_mem_put {x y : α} {xs : List α} (h : y ∈ put nameOf x xs) :
    y = x ∨ y ∈ xs := by
  induction xs with
  | nil => exact .inl (List.mem_singleton.mp h)
  | cons z rest ih =>
    rw [put] at h
    split at h
    · rcases List.mem_cons.mp h with rfl | h
      · exact .inl rfl
      · exact .inr (List.mem_cons_of_mem z h)
    · rcases List.mem_cons.mp h with rfl | h
      · exact .inr List.mem_cons_self
      · exact (ih h).imp_right (List.mem_cons_of_mem z)

theorem mem_of_find? {name : String} {x : α} {xs : List α}
    (h : find? nameOf name xs = some x) : x ∈ xs :=
  List.mem_of_find?_eq_some h

end Named

/-- A change of the registered schema. -/
inductive Mutation
  | addTable (name : String) (columns : List ColumnDefinition) (constraints : List TableConstraint)
  | setColumns (table : String) (columns : List ColumnDefinition)
  | setConstraints (table : String) (constraints : List TableConstraint)
  | addIndex (name table : String) (columns : List String) (unique : Bool)
  | addTrigger (name table sql : String)
  | lock

namespace Registry

/-- The registry after a mutation. -/
def mutate (r : Registry) : Mutation → Except Error Registry
  | .addTable name columns constraints => r.addTable name columns constraints
  | .setColumns table columns => r.setColumns table columns
  | .setConstraints table constraints => r.setConstraints table constraints
  | .addIndex name table columns unique => r.addIndex name table columns unique
  | .addTrigger name table sql => r.addTrigger name table sql
  | .lock => .ok r.lock

/-- A registry that comes about by mutations; one that fails changes nothing. -/
inductive Reachable : Registry → Prop
  | empty (options : RegistryOptions) : Reachable (.empty options)
  | mutate {r r' : Registry} (m : Mutation) (hr : Reachable r) (h : r.mutate m = .ok r') :
    Reachable r'

end Registry

/-! ## Names -/

theorem checkIdentifier_eq_ok_iff {kind : NameKind} {name : String} {u : Unit} :
    checkIdentifier kind name = .ok u ↔ isIdentifier name = true := by
  unfold checkIdentifier
  split <;> simp_all

/-- The names of a table and of its columns are identifiers. -/
structure TableDefinition.WellNamed (t : TableDefinition) : Prop where
  name : isIdentifier t.name = true
  columns : ∀ c ∈ t.columns, isIdentifier c.name = true

namespace Registry

/-- All tables of a registry are well named. -/
def WellNamed (r : Registry) : Prop := ∀ t ∈ r.tables, t.WellNamed

variable {r r' : Registry}

theorem mem_tables_of_requireTable {name : String} {t : TableDefinition}
    (h : r.requireTable name = .ok t) : t ∈ r.tables := by
  unfold requireTable at h
  split at h
  · rename_i hfound
    cases h
    exact Named.mem_of_find? hfound
  · cases h

theorem mem_tables_of_table? {name : String} {t : TableDefinition} (h : r.table? name = some t) :
    t ∈ r.tables :=
  Named.mem_of_find? h

theorem ensureUnlocked_eq_ok_iff {table : String} {u : Unit} :
    r.ensureUnlocked table = .ok u ↔ r.locked = false := by
  unfold ensureUnlocked
  cases r.locked <;> simp

/-- Being well named is a matter of the tables. -/
theorem WellNamed.congr (hr : r.WellNamed) (h : r'.tables = r.tables) : r'.WellNamed := by
  intro t ht
  rw [h] at ht
  exact hr t ht

theorem WellNamed.putTable (hr : r.WellNamed) {t : TableDefinition} (ht : t.WellNamed) :
    (r.putTable t).WellNamed := by
  intro u hu
  rcases Named.eq_or_mem_of_mem_put hu with rfl | hu
  · exact ht
  · exact hr u hu

theorem WellNamed.addTrigger (hr : r.WellNamed) {name table sql : String}
    (h : r.addTrigger name table sql = .ok r') : r'.WellNamed := by
  simp only [Registry.addTrigger, bind_eq_ok_iff] at h
  obtain ⟨_, -, t, ht, _, -, h⟩ := h
  cases h
  have hold := hr t (mem_tables_of_requireTable ht)
  exact hr.putTable ⟨hold.name, hold.columns⟩

theorem WellNamed.putColumn (hr : r.WellNamed) {table : String} {c : ColumnDefinition}
    (h : r.putColumn table c = .ok r') : r'.WellNamed := by
  simp only [Registry.putColumn, bind_eq_ok_iff, checkIdentifier_eq_ok_iff] at h
  obtain ⟨_, hname, t, ht, h⟩ := h
  have hold := hr t (mem_tables_of_requireTable ht)
  have hput : (r.putTable { t with
      columns := Named.put ColumnDefinition.name (r.complete c) t.columns }).WellNamed := by
    refine hr.putTable ⟨hold.name, fun d hd => ?_⟩
    rcases Named.eq_or_mem_of_mem_put hd with rfl | hd
    · exact hname
    · exact hold.columns d hd
  split at h
  · exact hput.addTrigger h
  · cases h
    exact hput

theorem WellNamed.putColumns (hr : r.WellNamed) {table : String} {columns : List ColumnDefinition}
    (h : r.putColumns table columns = .ok r') : r'.WellNamed :=
  foldlM_induct (fun _ _ _ hs hstep => WellNamed.putColumn hs hstep) hr h

/-- An index is registered beside the tables. -/
theorem tables_addIndex {name table : String} {columns : List String} {unique : Bool}
    (h : r.addIndex name table columns unique = .ok r') : r'.tables = r.tables := by
  simp only [Registry.addIndex, bind_eq_ok_iff] at h
  obtain ⟨_, -, _, -, h⟩ := h
  split at h
  · cases h
  · simp only [bind_eq_ok_iff] at h
    obtain ⟨_, -, t, -, h⟩ := h
    cases h
    rfl

theorem WellNamed.addIndex (hr : r.WellNamed) {name table : String} {columns : List String}
    {unique : Bool} (h : r.addIndex name table columns unique = .ok r') : r'.WellNamed :=
  hr.congr (tables_addIndex h)

theorem WellNamed.replaceConstraints (hr : r.WellNamed) {table : String}
    {constraints : List TableConstraint} (h : r.replaceConstraints table constraints = .ok r') :
    r'.WellNamed := by
  simp only [Registry.replaceConstraints, bind_eq_ok_iff] at h
  obtain ⟨t, ht, h⟩ := h
  have hold := hr t (mem_tables_of_requireTable ht)
  have hput : (r.putTable { t with constraints := constraintTexts constraints }).WellNamed :=
    hr.putTable ⟨hold.name, hold.columns⟩
  refine foldlM_induct (fun s c s' hs hstep => ?_) hput h
  cases c with
  | sql text =>
    cases hstep
    exact hs
  | index name columns unique => exact WellNamed.addIndex hs hstep

theorem WellNamed.addTable (hr : r.WellNamed) {name : String} {columns : List ColumnDefinition}
    {constraints : List TableConstraint} (h : r.addTable name columns constraints = .ok r') :
    r'.WellNamed := by
  simp only [Registry.addTable, bind_eq_ok_iff, checkIdentifier_eq_ok_iff] at h
  obtain ⟨_, hname, _, -, s, hs, t, -, h⟩ := h
  have hfresh : (r.putTable ⟨Text.trim name, [], [], []⟩).WellNamed :=
    hr.putTable ⟨hname, fun c hc => absurd hc List.not_mem_nil⟩
  have hcolumns : s.WellNamed := by
    refine WellNamed.putColumns (WellNamed.congr hfresh ?_) hs
    rfl
  refine WellNamed.replaceConstraints (WellNamed.congr hcolumns ?_) h
  rfl

/-- What a mutation makes of a well-named registry is well named. -/
theorem WellNamed.mutate (hr : r.WellNamed) {m : Mutation} (h : r.mutate m = .ok r') :
    r'.WellNamed := by
  cases m with
  | addTable name columns constraints => exact hr.addTable h
  | setColumns table columns =>
    simp only [Registry.mutate, Registry.setColumns, bind_eq_ok_iff] at h
    obtain ⟨_, -, _, -, h⟩ := h
    exact hr.putColumns h
  | setConstraints table constraints =>
    simp only [Registry.mutate, Registry.setConstraints, bind_eq_ok_iff] at h
    obtain ⟨_, -, _, -, h⟩ := h
    exact hr.replaceConstraints h
  | addIndex name table columns unique => exact hr.addIndex h
  | addTrigger name table sql => exact hr.addTrigger h
  | lock =>
    cases h
    exact hr

/-- **The names of tables and columns are identifiers, whatever was registered and how often.** -/
theorem Reachable.wellNamed (hr : r.Reachable) : r.WellNamed := by
  induction hr with
  | empty options => exact fun t ht => absurd ht List.not_mem_nil
  | mutate m _ h ih => exact ih.mutate h

/-! ## A registry to look at -/

/-- A table of users with their ages and cities. -/
def users : TableDefinition :=
  { name := "user"
    columns := [⟨"age", "INTEGER", "", false⟩, ⟨"city", "TEXT", "", false⟩]
    constraints := []
    triggers := [] }

/-- The registry that knows this table alone. -/
def ofUsers : Registry := { empty .standard with tables := [users] }

theorem ofUsers_reachable : ofUsers.Reachable :=
  .mutate (.addTable "user" users.columns []) (.empty .standard) rfl

end Registry

end FilterStore
