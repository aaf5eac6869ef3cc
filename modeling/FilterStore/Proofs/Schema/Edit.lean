import Mathlib.Logic.Relation
import FilterStore.Proofs.Schema.Named

/-!
# What mutations are made of

Mutations look things up, check names and go through lists, and fail on the way or not.  What one
does when it succeeds is simpler: it is a sequence of *edits* of one table.  An edit puts a column
into the table, replaces its constraints, or registers a trigger or an index of it.  Registering a
table first puts an empty one in its place, and drops indexes between the columns and the
constraints.

So what every edit keeps, every mutation keeps (`change_of_mutate`), and nobody else needs to look
at the steps in which mutations are written.
-/

namespace FilterStore

open Text (sameName trim)

/-- A table that lists a trigger. -/
def TableDefinition.listing (t : TableDefinition) (name : String) : TableDefinition :=
  { t with
    triggers :=
      if t.triggers.any fun n => sameName n name then t.triggers else t.triggers ++ [name] }

namespace Registry

/-- A change of one table and of what belongs to it. -/
inductive Edit (r : Registry) (t : TableDefinition) : Registry → Prop
  | column (c : ColumnDefinition) (named : isIdentifier c.name = true) :
    Edit r t (r.putTable { t with columns := Named.put ColumnDefinition.name c t.columns })
  | constraints (texts : List String) : Edit r t (r.putTable { t with constraints := texts })
  | trigger (g : TriggerDefinition) (named : isIdentifier g.name = true)
    (own : g.table = t.name) :
    Edit r t { r.putTable (t.listing g.name) with
      triggers := Named.put TriggerDefinition.name g r.triggers }
  | index (i : IndexDefinition) (named : isIdentifier i.name = true) (own : i.table = t.name)
    (some : i.columns ≠ []) (there : ∀ c ∈ i.columns, ∃ d ∈ t.columns, d.name = c) :
    Edit r t { r with indexes := Named.put IndexDefinition.name i r.indexes }

/-- Edits of the table of a name, one after the other. -/
def Edits (name : String) : Registry → Registry → Prop :=
  Relation.ReflTransGen fun r r' => ∃ t ∈ r.tables, sameName t.name name = true ∧ Edit r t r'

/-- The registry with an empty table in the place of the one of a name, and without triggers of
that. -/
def cleared (r : Registry) (name : String) : Registry :=
  { r.putTable { name, columns := [], constraints := [], triggers := [] } with
    triggers := r.triggers.filter fun g => !sameName g.table name }

/-- The registry without the indexes that cannot stay with a table. -/
def pruned (r : Registry) (t : TableDefinition) : Registry :=
  { r with indexes := r.indexes.filter (keepsIndex t) }

/-- What a mutation does. -/
inductive Change (r : Registry) : Registry → Prop
  | edits {r' : Registry} (name : String) (h : Edits name r r') : Change r r'
  | table {s r' : Registry} {t : TableDefinition} (name : String)
    (named : isIdentifier name = true) (columns : Edits name (r.cleared name) s)
    (ht : t ∈ s.tables) (same : sameName t.name name = true)
    (constraints : Edits name (s.pruned t) r') : Change r r'
  | lock : Change r r.lock

section Steps

variable {r r' : Registry} {name table : String}

theorem of_requireTable_ok {t : TableDefinition} (h : r.requireTable name = .ok t) :
    t ∈ r.tables ∧ sameName t.name name = true := by
  refine ⟨mem_tables_of_requireTable h, ?_⟩
  unfold requireTable at h
  split at h
  · rename_i hfound
    cases h
    exact Named.sameName_of_find? hfound
  · cases h

theorem edit_of_addTrigger {sql : String} (h : r.addTrigger name table sql = .ok r') :
    ∃ t, r.requireTable (trim table) = .ok t ∧ Edit r t r' := by
  simp only [addTrigger, bind_eq_ok_iff, checkIdentifier_eq_ok_iff] at h
  obtain ⟨_, named, t, ht, _, -, h⟩ := h
  cases h
  exact ⟨t, ht, .trigger ⟨trim name, t.name, trim sql⟩ named rfl⟩

/-- The columns of an index are spelled as its table spells them. -/
theorem exists_column_of_spelled {t : TableDefinition} {columns : List String}
    (h : missingColumn? t columns = none) {c : String}
    (hc : c ∈ columns.map fun c => match t.column? c with
      | some d => d.name
      | none => trim c) : ∃ d ∈ t.columns, d.name = c := by
  obtain ⟨written, hwritten, rfl⟩ := List.mem_map.mp hc
  have found := List.find?_eq_none.mp h written hwritten
  cases hcolumn : t.column? written with
  | none =>
    rw [hcolumn] at found
    exact absurd rfl found
  | some d => exact ⟨d, Named.mem_of_find? hcolumn, rfl⟩

theorem edit_of_addIndex {columns : List String} {unique : Bool}
    (h : r.addIndex name table columns unique = .ok r') :
    ∃ t, r.requireTable (trim table) = .ok t ∧ Edit r t r' := by
  simp only [addIndex, bind_eq_ok_iff, checkIdentifier_eq_ok_iff] at h
  obtain ⟨_, named, _, -, h⟩ := h
  split at h
  · cases h
  rename_i nonempty
  simp only [checkColumns, bind_eq_ok_iff] at h
  obtain ⟨_, ⟨t, ht', checked⟩, u, ht, h⟩ := h
  rw [Text.trim_trim, ht] at ht'
  cases ht'
  cases h
  have none_missing : missingColumn? t columns = none := by
    split at checked
    · cases checked
    · assumption
  refine ⟨t, ht, .index ⟨trim name, t.name, _, unique⟩ named rfl ?_ fun c hc => ?_⟩
  · simpa using nonempty
  · exact exists_column_of_spelled none_missing hc

/-- A column comes with the trigger that keeps it up to date, if it is the one of last changes. -/
theorem edits_of_putColumn {c : ColumnDefinition} (hr : r.WellNamed)
    (h : r.putColumn table c = .ok r') : Edits table r r' := by
  simp only [putColumn, bind_eq_ok_iff, checkIdentifier_eq_ok_iff] at h
  obtain ⟨_, named, t, ht, h⟩ := h
  obtain ⟨mem, same⟩ := of_requireTable_ok ht
  have column : Edits table r (r.putTable { t with
      columns := Named.put ColumnDefinition.name (r.complete c) t.columns }) :=
    .single ⟨t, mem, same, .column (r.complete c) named⟩
  split at h
  · obtain ⟨u, hu, trigger⟩ := edit_of_addTrigger h
    rw [trim_of_isIdentifier (hr t mem).name] at hu
    obtain ⟨mem', same'⟩ := of_requireTable_ok hu
    exact column.tail ⟨u, mem', Text.sameName_trans same' same, trigger⟩
  · cases h
    exact column

theorem edits_of_putColumns {columns : List ColumnDefinition} (hr : r.WellNamed)
    (h : r.putColumns table columns = .ok r') : Edits table r r' := by
  have both : r'.WellNamed ∧ Edits table r r' :=
    foldlM_induct (P := fun s => s.WellNamed ∧ Edits table r s)
      (fun s c s' hs step =>
        ⟨hs.1.putColumn step, hs.2.trans (edits_of_putColumn hs.1 step)⟩)
      ⟨hr, Relation.ReflTransGen.refl⟩ h
  exact both.2

theorem edits_of_addIndex {columns : List String} {unique : Bool}
    (h : r.addIndex name table columns unique = .ok r') : Edits (trim table) r r' := by
  obtain ⟨t, ht, edit⟩ := edit_of_addIndex h
  obtain ⟨mem, same⟩ := of_requireTable_ok ht
  exact .single ⟨t, mem, same, edit⟩

theorem edits_of_replaceConstraints {constraints : List TableConstraint}
    (h : r.replaceConstraints (trim table) constraints = .ok r') : Edits (trim table) r r' := by
  simp only [replaceConstraints, bind_eq_ok_iff] at h
  obtain ⟨t, ht, h⟩ := h
  obtain ⟨mem, same⟩ := of_requireTable_ok ht
  have texts : Edits (trim table) r
      (r.putTable { t with constraints := constraintTexts constraints }) :=
    .single ⟨t, mem, same, .constraints _⟩
  refine foldlM_induct (fun s c s' hs step => ?_) texts h
  cases c with
  | sql text =>
    cases step
    exact hs
  | index name columns unique =>
    have index := edits_of_addIndex step
    rw [Text.trim_trim] at index
    exact hs.trans index

end Steps

/-- **A mutation that succeeds is a sequence of edits of one table, which may be a new one.** -/
theorem change_of_mutate {r r' : Registry} (hr : r.WellNamed) {m : Mutation}
    (h : r.mutate m = .ok r') : Change r r' := by
  cases m with
  | addTable name columns constraints =>
    simp only [mutate, addTable, bind_eq_ok_iff, checkIdentifier_eq_ok_iff] at h
    obtain ⟨_, named, _, -, s, hs, t, ht, h⟩ := h
    obtain ⟨mem, same⟩ := of_requireTable_ok ht
    have blank : TableDefinition.WellNamed ⟨trim name, [], [], []⟩ :=
      ⟨named, fun c hc => absurd hc List.not_mem_nil⟩
    have fresh : (r.cleared (trim name)).WellNamed := (hr.putTable blank).congr rfl
    exact .table (trim name) named (edits_of_putColumns fresh hs) mem same
      (edits_of_replaceConstraints h)
  | setColumns table columns =>
    simp only [mutate, setColumns, bind_eq_ok_iff] at h
    obtain ⟨_, -, _, -, h⟩ := h
    exact .edits (trim table) (edits_of_putColumns hr h)
  | setConstraints table constraints =>
    simp only [mutate, setConstraints, bind_eq_ok_iff] at h
    obtain ⟨_, -, _, -, h⟩ := h
    exact .edits (trim table) (edits_of_replaceConstraints h)
  | addIndex name table columns unique => exact .edits (trim table) (edits_of_addIndex h)
  | addTrigger name table sql =>
    obtain ⟨t, ht, edit⟩ := edit_of_addTrigger h
    obtain ⟨mem, same⟩ := of_requireTable_ok ht
    exact .edits (trim table) (.single ⟨t, mem, same, edit⟩)
  | lock =>
    cases h
    exact .lock

/-! ## Mutations one after the other -/

/-- The registry after a mutation; one that fails changes nothing. -/
def perform (r : Registry) (m : Mutation) : Registry :=
  match r.mutate m with
  | .ok r' => r'
  | .error _ => r

/-- The registry after some mutations of the empty one, whether they succeed or fail.  Setting one
column is setting a list of columns. -/
def after (options : RegistryOptions) (ms : List Mutation) : Registry :=
  ms.foldl perform (.empty options)

theorem after_append (options : RegistryOptions) (ms : List Mutation) (m : Mutation) :
    after options (ms ++ [m]) = (after options ms).perform m :=
  List.foldl_append

theorem change_of_perform {r : Registry} (hr : r.WellNamed) (m : Mutation) :
    r.perform m = r ∨ Change r (r.perform m) := by
  unfold perform
  split
  · rename_i r' h
    exact .inr (change_of_mutate hr h)
  · exact .inl rfl

end Registry

end FilterStore
