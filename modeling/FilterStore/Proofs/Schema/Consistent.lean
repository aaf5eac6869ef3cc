import FilterStore.Proofs.Schema.Edit

/-!
# Registries are consistent

A registry holds three lists that refer to each other by name: tables with their columns, indexes on
columns of tables, and triggers of tables.  Whatever was registered and how often, these references
lead somewhere: names are identifiers and occur once, an index names columns that its table has, and
a trigger has its table.

Most of this is kept by every edit (`Tidy`).  What an index names is not, because registering a
table again takes its columns away first.  So indexes are followed separately.  An edit takes no
column away, so an index that is covered stays covered, and an index that an edit brings is covered
by the table it is checked against (`Keeps`).  The indexes that a new table does not cover are
dropped, and until then they are no concern of any edit.
-/

namespace FilterStore.Registry

open Text (sameName)

/-- The table of an index is registered, and has every column that the index names. -/
def Covers (r : Registry) (i : IndexDefinition) : Prop :=
  ∃ t ∈ r.tables, sameName t.name i.table = true ∧
    ∀ c ∈ i.columns, ∃ d ∈ t.columns, sameName d.name c = true

/-- Names are identifiers and occur once, indexes name something, and triggers have a table. -/
structure Tidy (r : Registry) : Prop where
  /-- The names of tables and columns are identifiers. -/
  named : r.WellNamed
  tables : Named.Distinct TableDefinition.name r.tables
  columns : ∀ t ∈ r.tables, Named.Distinct ColumnDefinition.name t.columns
  indexes : Named.Distinct IndexDefinition.name r.indexes
  triggers : Named.Distinct TriggerDefinition.name r.triggers
  index_named : ∀ i ∈ r.indexes, isIdentifier i.name = true ∧ i.columns ≠ [] ∧
    ∀ c ∈ i.columns, isIdentifier c = true
  trigger_named : ∀ g ∈ r.triggers, isIdentifier g.name = true
  trigger_table : ∀ g ∈ r.triggers, ∃ t ∈ r.tables, sameName t.name g.table = true

/-- A registry in which every name leads somewhere. -/
structure Consistent (r : Registry) : Prop extends Tidy r where
  covered : ∀ i ∈ r.indexes, r.Covers i

/-- Between two registries no index loses a column, and those that come are covered. -/
structure Keeps (r r' : Registry) : Prop where
  covers : ∀ i, r.Covers i → r'.Covers i
  indexes : ∀ i ∈ r'.indexes, i ∈ r.indexes ∨ r'.Covers i

section Edits

variable {r r' s : Registry} {t u : TableDefinition} {i : IndexDefinition}

theorem Keeps.refl (r : Registry) : Keeps r r := ⟨fun _ h => h, fun _ h => .inl h⟩

theorem Keeps.trans (h : Keeps r s) (h' : Keeps s r') : Keeps r r' where
  covers i hi := h'.covers i (h.covers i hi)
  indexes i hi := (h'.indexes i hi).elim
    (fun old => (h.indexes i old).imp_right (h'.covers i)) .inr

/-! ## What edits keep -/

theorem Tidy.putTable (hr : r.Tidy) (named : u.WellNamed)
    (columns : Named.Distinct ColumnDefinition.name u.columns) : (r.putTable u).Tidy :=
  { hr with
    named := hr.named.putTable named
    tables := hr.tables.put
    columns := fun t ht => by
      rcases Named.eq_or_mem_of_mem_put ht with rfl | ht
      · exact columns
      · exact hr.columns t ht
    trigger_table := fun g hg => by
      obtain ⟨t, ht, same⟩ := hr.trigger_table g hg
      rcases Named.mem_put_or_sameName ht with stays | replaced
      · exact ⟨t, stays, same⟩
      · exact ⟨u, Named.mem_put_self, Text.sameName_trans replaced same⟩ }

theorem Tidy.putTrigger (hr : r.Tidy) {g : TriggerDefinition} (named : isIdentifier g.name = true)
    (table : ∃ t ∈ r.tables, sameName t.name g.table = true) :
    { r with triggers := Named.put TriggerDefinition.name g r.triggers }.Tidy :=
  { hr with
    triggers := hr.triggers.put
    trigger_named := fun g' hg' => by
      rcases Named.eq_or_mem_of_mem_put hg' with rfl | old
      · exact named
      · exact hr.trigger_named g' old
    trigger_table := fun g' hg' => by
      rcases Named.eq_or_mem_of_mem_put hg' with rfl | old
      · exact table
      · exact hr.trigger_table g' old }

theorem Tidy.putIndex (hr : r.Tidy) (named : isIdentifier i.name = true) (some : i.columns ≠ [])
    (columns : ∀ c ∈ i.columns, isIdentifier c = true) :
    { r with indexes := Named.put IndexDefinition.name i r.indexes }.Tidy :=
  { hr with
    indexes := hr.indexes.put
    index_named := fun j hj => by
      rcases Named.eq_or_mem_of_mem_put hj with rfl | old
      · exact ⟨named, some, columns⟩
      · exact hr.index_named j old }

theorem Edit.tidy (hr : r.Tidy) (ht : t ∈ r.tables) (h : Edit r t r') : r'.Tidy := by
  have named := hr.named t ht
  cases h with
  | column c identifier =>
    refine hr.putTable ⟨named.name, fun d hd => ?_⟩ (hr.columns t ht).put
    rcases Named.eq_or_mem_of_mem_put hd with rfl | hd
    · exact identifier
    · exact named.columns d hd
  | constraints texts => exact hr.putTable ⟨named.name, named.columns⟩ (hr.columns t ht)
  | trigger g identifier own =>
    have listed : (r.putTable (t.listing g.name)).Tidy :=
      hr.putTable ⟨named.name, named.columns⟩ (hr.columns t ht)
    refine listed.putTrigger identifier ⟨t.listing g.name, Named.mem_put_self, ?_⟩
    rw [own]
    exact Text.sameName_refl t.name
  | index i identifier own some there =>
    refine hr.putIndex identifier some fun c hc => ?_
    obtain ⟨d, hd, rfl⟩ := there c hc
    exact named.columns d hd

/-- A table may be replaced by one that has its columns. -/
theorem Covers.putTable (hr : r.Tidy) (ht : t ∈ r.tables) (name : u.name = t.name)
    (columns : ∀ d ∈ t.columns, ∃ e ∈ u.columns, sameName e.name d.name = true)
    (h : r.Covers i) : (r.putTable u).Covers i := by
  obtain ⟨v, hv, same, there⟩ := h
  cases replaced : sameName v.name u.name with
  | false => exact ⟨v, Named.mem_put_of_mem hv replaced, same, there⟩
  | true =>
    obtain rfl := hr.tables.eq_of_sameName hv ht (name ▸ replaced)
    refine ⟨u, Named.mem_put_self, name ▸ same, fun c hc => ?_⟩
    obtain ⟨d, hd, named⟩ := there c hc
    obtain ⟨e, he, kept⟩ := columns d hd
    exact ⟨e, he, Text.sameName_trans kept named⟩

theorem Edit.keeps (hr : r.Tidy) (ht : t ∈ r.tables) (h : Edit r t r') : Keeps r r' := by
  cases h with
  | column c identifier =>
    refine ⟨fun i hi => hi.putTable hr ht rfl fun d hd => ?_, fun i hi => .inl hi⟩
    rcases Named.mem_put_or_sameName hd with stays | replaced
    · exact ⟨d, stays, Text.sameName_refl _⟩
    · exact ⟨c, Named.mem_put_self, replaced⟩
  | constraints texts =>
    exact ⟨fun i hi => hi.putTable hr ht rfl fun d hd => ⟨d, hd, Text.sameName_refl _⟩,
      fun i hi => .inl hi⟩
  | trigger g identifier own =>
    have listed : ∀ i, r.Covers i → (r.putTable (t.listing g.name)).Covers i := fun i hi =>
      hi.putTable hr ht rfl fun d hd => ⟨d, hd, Text.sameName_refl _⟩
    exact ⟨listed, fun i hi => .inl hi⟩
  | index i identifier own some there =>
    refine ⟨fun j hj => hj, fun j hj => ?_⟩
    rcases Named.eq_or_mem_of_mem_put hj with rfl | old
    · refine .inr ⟨t, ht, by rw [own, Text.sameName_refl], fun c hc => ?_⟩
      obtain ⟨d, hd, rfl⟩ := there c hc
      exact ⟨d, hd, Text.sameName_refl _⟩
    · exact .inl old

theorem Edits.tidy_keeps {name : String} (hr : r.Tidy) (h : Edits name r r') :
    r'.Tidy ∧ Keeps r r' := by
  induction h with
  | refl => exact ⟨hr, .refl r⟩
  | tail _ step ih =>
    obtain ⟨t, ht, -, edit⟩ := step
    exact ⟨edit.tidy ih.1 ht, ih.2.trans (edit.keeps ih.1 ht)⟩

/-! ## A table in the place of another one -/

theorem Tidy.cleared {name : String} (hr : r.Tidy) (identifier : isIdentifier name = true) :
    (r.cleared name).Tidy := by
  have blank : TableDefinition.WellNamed ⟨name, [], [], []⟩ :=
    ⟨identifier, fun c hc => absurd hc List.not_mem_nil⟩
  have emptied : (r.putTable ⟨name, [], [], []⟩).Tidy := hr.putTable blank List.nodup_nil
  exact { emptied with
    triggers := hr.triggers.filter _
    trigger_named := fun g hg => hr.trigger_named g (List.mem_filter.mp hg).1
    trigger_table := fun g hg => emptied.trigger_table g (List.mem_filter.mp hg).1 }

theorem Tidy.pruned (hr : r.Tidy) (t : TableDefinition) : (r.pruned t).Tidy :=
  { hr with
    indexes := hr.indexes.filter _
    index_named := fun i hi => hr.index_named i (List.mem_filter.mp hi).1 }

/-- An index of another table does not mind that a table is cleared. -/
theorem Covers.cleared {name : String} (h : r.Covers i) (other : sameName i.table name = false) :
    (r.cleared name).Covers i := by
  obtain ⟨t, ht, same, there⟩ := h
  refine ⟨t, Named.mem_put_of_mem ht ?_, same, there⟩
  rw [← Bool.not_eq_true] at other ⊢
  exact fun clash => other (Text.sameName_trans (by rw [Text.sameName_comm, same]) clash)

/-- An index that can stay with its table is covered by it. -/
theorem covers_of_keepsIndex (ht : t ∈ r.tables) (same : sameName i.table t.name = true)
    (names : ∀ c ∈ i.columns, isIdentifier c = true) (h : keepsIndex t i = true) :
    r.Covers i := by
  simp only [keepsIndex, same, Bool.not_true, Bool.false_or, List.all_eq_true] at h
  refine ⟨t, ht, by rw [Text.sameName_comm, same], fun c hc => ?_⟩
  obtain ⟨d, hd⟩ := Option.isSome_iff_exists.mp (h c hc)
  have found := Named.sameName_of_find? hd
  rw [trim_of_isIdentifier (names c hc)] at found
  exact ⟨d, Named.mem_of_find? hd, found⟩

/-- The indexes that are left when a table has its new columns are covered. -/
theorem Consistent.pruned {name : String} (hr : r.Consistent)
    (identifier : isIdentifier name = true) (columns : Edits name (r.cleared name) s)
    (ht : t ∈ s.tables) (same : sameName t.name name = true) : (s.pruned t).Consistent := by
  obtain ⟨tidy, keeps⟩ := columns.tidy_keeps (hr.toTidy.cleared identifier)
  refine ⟨tidy.pruned t, fun i hi => ?_⟩
  obtain ⟨hi, kept⟩ := List.mem_filter.mp hi
  have still : s.Covers i := by
    cases own : sameName i.table t.name with
    | true => exact covers_of_keepsIndex ht own (tidy.index_named i hi).2.2 kept
    | false =>
      have other : sameName i.table name = false := by
        rw [← Bool.not_eq_true] at own ⊢
        exact fun clash => own (Text.sameName_trans clash (by rw [Text.sameName_comm, same]))
      rcases keeps.indexes i hi with old | covered
      · exact keeps.covers i ((hr.covered i old).cleared other)
      · exact covered
  exact still

theorem Consistent.edits {name : String} (hr : r.Consistent) (h : Edits name r r') :
    r'.Consistent := by
  obtain ⟨tidy, keeps⟩ := h.tidy_keeps hr.toTidy
  exact ⟨tidy, fun i hi => (keeps.indexes i hi).elim
    (fun old => keeps.covers i (hr.covered i old)) id⟩

theorem Consistent.change (hr : r.Consistent) (h : Change r r') : r'.Consistent := by
  cases h with
  | edits name h => exact hr.edits h
  | table name identifier columns ht same constraints =>
    exact (hr.pruned identifier columns ht same).edits constraints
  | lock => exact { hr with }

end Edits

/-! ## Registries that come about -/

theorem consistent_empty (options : RegistryOptions) : (empty options).Consistent where
  named _ ht := absurd ht List.not_mem_nil
  tables := List.nodup_nil
  columns _ ht := absurd ht List.not_mem_nil
  indexes := List.nodup_nil
  triggers := List.nodup_nil
  index_named _ hi := absurd hi List.not_mem_nil
  trigger_named _ hg := absurd hg List.not_mem_nil
  trigger_table _ hg := absurd hg List.not_mem_nil
  covered _ hi := absurd hi List.not_mem_nil

theorem Reachable.consistent {r : Registry} (hr : r.Reachable) : r.Consistent := by
  induction hr with
  | empty options => exact consistent_empty options
  | mutate m _ h ih => exact ih.change (change_of_mutate ih.named h)

theorem Consistent.perform {r : Registry} (hr : r.Consistent) (m : Mutation) :
    (r.perform m).Consistent := by
  rcases change_of_perform hr.named m with unchanged | change
  · rw [unchanged]
    exact hr
  · exact hr.change change

/-- What the empty registry has and every mutation of a consistent registry keeps, every registry
has. -/
theorem after_induct {P : Registry → Prop} {options : RegistryOptions}
    (start : P (empty options)) (step : ∀ r m, r.Consistent → P r → P (r.perform m))
    (ms : List Mutation) : P (after options ms) := by
  have both : (after options ms).Consistent ∧ P (after options ms) := by
    induction ms using List.reverseRecOn with
    | nil => exact ⟨consistent_empty options, start⟩
    | append_singleton ms m ih =>
      rw [after_append]
      exact ⟨ih.1.perform m, step _ m ih.1 ih.2⟩
  exact both.2

/-- **Whatever is registered, in whatever order and however often, and whatever of it fails: names
are identifiers and occur once, indexes name columns that their tables have, and triggers have a
table.** -/
theorem consistent_after (options : RegistryOptions) (ms : List Mutation) :
    (after options ms).Consistent :=
  after_induct (consistent_empty options) (fun _ m hr _ => hr.perform m) ms

/-- An index goes with the column it names, also if its table comes back in another spelling. -/
example :
    (after .standard
      [.addTable "user" users.columns [.index "user_city" ["CITY"] true],
        .addTable "User" [.ofParts "age" "INTEGER" ""] []]).indexes = [] := by
  decide +kernel

end FilterStore.Registry
