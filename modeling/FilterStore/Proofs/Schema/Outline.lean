import FilterStore.Proofs.Schema.Given

/-!
# The tables of a registry in outline

What a registry has of tables is here looked at in *outline*: the names of the tables and of their
columns, in order.  Tables with proper names that are new can always be registered in an unlocked
registry, and each adds itself to the outline (`Registry.exists_addTable`).  Indexes of columns that
are there and triggers of tables that are there can be registered as well, and the outline stays as
it is (`Registry.exists_addIndex`, `Registry.exists_addTrigger`).
-/

namespace FilterStore

open Text (lower sameName trim)

namespace Named

variable {α β : Type} {nameOf : α → String} {x : α} {xs : List α}

/-- A thing of a new name comes last. -/
theorem put_of_fresh (fresh : ∀ y ∈ xs, sameName (nameOf y) (nameOf x) = false) :
    put nameOf x xs = xs ++ [x] := by
  induction xs with
  | nil => rfl
  | cons y ys ih =>
    obtain ⟨first, others⟩ := List.forall_mem_cons.mp fresh
    rw [put, first, if_neg Bool.false_ne_true, ih others, List.cons_append]

/-- Putting a thing where the last one stands. -/
theorem put_last {y : α} (fresh : ∀ z ∈ xs, sameName (nameOf z) (nameOf x) = false)
    (same : sameName (nameOf y) (nameOf x) = true) : put nameOf x (xs ++ [y]) = xs ++ [x] := by
  induction xs with
  | nil =>
    rw [List.nil_append, put, if_pos same]
    rfl
  | cons z zs ih =>
    obtain ⟨first, others⟩ := List.forall_mem_cons.mp fresh
    rw [List.cons_append, put, first, if_neg Bool.false_ne_true, ih others, List.cons_append]

/-- What does not tell a thing from the one whose place it takes does not notice. -/
theorem map_put {f : α → β} (there : ∃ y ∈ xs, sameName (nameOf y) (nameOf x) = true)
    (alike : ∀ y ∈ xs, sameName (nameOf y) (nameOf x) = true → f y = f x) :
    (put nameOf x xs).map f = xs.map f := by
  induction xs with
  | nil =>
    obtain ⟨_, hy, -⟩ := there
    cases hy
  | cons y ys ih =>
    obtain ⟨first, others⟩ := List.forall_mem_cons.mp alike
    rw [put]
    split
    · rename_i same
      rw [List.map_cons, List.map_cons, first same]
    · rename_i other
      obtain ⟨z, hz, same⟩ := there
      rcases List.mem_cons.mp hz with rfl | hz
      · exact absurd same other
      · rw [List.map_cons, List.map_cons, ih ⟨z, hz, same⟩ others]

end Named

namespace Registry

/-- The names of the tables, each with the names of its columns. -/
def outline (r : Registry) : List (String × List String) :=
  r.tables.map fun t => (t.name, t.columnNames)

section Steps

variable {r : Registry} {ts : List TableDefinition} {t u : TableDefinition} {c : ColumnDefinition}
  {name table : String}

theorem requireTable_eq_ok (hr : r.Tidy) (ht : t ∈ r.tables) (same : sameName t.name name = true) :
    r.requireTable name = .ok t := by
  rw [requireTable, hr.tables.find?_of_sameName ht same]

theorem apart_of_last (hr : r.Tidy) (tables : r.tables = ts ++ [t]) (hu : u ∈ ts) :
    sameName u.name t.name = false := by
  have distinct := hr.tables
  rw [Named.Distinct, tables, List.map_append, List.nodup_append] at distinct
  refine Bool.eq_false_iff.mpr fun same => ?_
  exact distinct.2.2 _ (List.mem_map_of_mem hu) _ (List.mem_singleton_self _)
    (Text.sameName_iff.mp same)

theorem exists_addTrigger (unlocked : r.locked = false) (identifier : isIdentifier (trim name) = true)
    (found : r.requireTable (trim table) = .ok t) (sql : String) :
    ∃ r', r.addTrigger name table sql = .ok r' := by
  simp only [addTrigger, checkIdentifier, if_pos identifier, ok_bind, found, ensureUnlocked,
    unlocked, if_neg Bool.false_ne_true]
  exact ⟨_, rfl⟩

/-- A column of a proper name can be put into a table that is there. -/
theorem exists_putColumn_ok (hr : r.Tidy) (unlocked : r.locked = false) (ht : t ∈ r.tables)
    (identifier : isIdentifier c.name = true) : ∃ r', r.putColumn t.name c = .ok r' := by
  have named := (hr.named t ht).name
  have found : r.requireTable t.name = .ok t := requireTable_eq_ok hr ht (Text.sameName_refl t.name)
  obtain ⟨u, hu⟩ : ∃ u : TableDefinition, u =
      { t with columns := Named.put ColumnDefinition.name (r.complete c) t.columns } := ⟨_, rfl⟩
  have name : u.name = t.name := by rw [hu]
  have filled : (r.putTable u).Tidy := by
    rw [hu]
    exact (Edit.column (r.complete c) identifier).tidy hr ht
  have found' : (r.putTable u).requireTable (trim t.name) = .ok u := by
    have same : sameName u.name t.name = true := by
      rw [name]
      exact Text.sameName_refl t.name
    rw [trim_of_isIdentifier named]
    exact requireTable_eq_ok filled Named.mem_put_self same
  have still : (r.putTable u).locked = false := unlocked
  have completed : isIdentifier (r.complete c).name = true := identifier
  have touch : isIdentifier (trim (touchName t.name (r.complete c).name)) = true := by
    rw [trim_of_isIdentifier (isIdentifier_touchName named completed)]
    exact isIdentifier_touchName named completed
  simp only [putColumn, checkIdentifier, if_pos identifier, ok_bind, found]
  rw [← hu]
  split
  · exact exists_addTrigger still touch found' _
  · exact ⟨_, rfl⟩

/-- A column of a new name comes last in the last table. -/
theorem exists_putColumn (hr : r.Tidy) (unlocked : r.locked = false) (tables : r.tables = ts ++ [t])
    (identifier : isIdentifier c.name = true)
    (fresh : ∀ d ∈ t.columns, sameName d.name c.name = false) :
    ∃ (r' : Registry) (t' : TableDefinition), r.putColumn t.name c = .ok r' ∧ r'.Tidy ∧
      r'.locked = false ∧ r'.tables = ts ++ [t'] ∧ t'.name = t.name ∧
      t'.columns = t.columns ++ [r.complete c] := by
  have ht : t ∈ r.tables := by
    rw [tables]
    exact List.mem_append_right _ (List.mem_singleton_self t)
  obtain ⟨r', put⟩ := exists_putColumn_ok hr unlocked ht identifier
  obtain ⟨v, hv, u, same, name, columns, -, -, locked, tables', -⟩ := of_putColumn_ok hr put
  obtain rfl := hr.tables.eq_of_sameName hv ht same
  have others : ∀ z ∈ ts, sameName z.name u.name = false := fun z hz => by
    rw [name]
    exact apart_of_last hr tables hz
  refine ⟨r', u, put, ((edits_of_putColumn hr.named put).tidy_keeps hr).1, locked.trans unlocked,
    ?_, name, ?_⟩
  · have alike : sameName v.name u.name = true := by
      rw [name]
      exact Text.sameName_refl v.name
    rw [tables', tables]
    exact Named.put_last others alike
  · rw [columns]
    exact Named.put_of_fresh fresh

/-- Columns of new names come last, in their order. -/
theorem exists_putColumns (hr : r.Tidy) (unlocked : r.locked = false)
    (tables : r.tables = ts ++ [t]) {cs : List ColumnDefinition}
    (identifiers : ∀ c ∈ cs, isIdentifier c.name = true)
    (fresh : ∀ d ∈ t.columns, ∀ c ∈ cs, sameName d.name c.name = false)
    (distinct : cs.Pairwise fun a b => sameName a.name b.name = false) :
    ∃ (r' : Registry) (t' : TableDefinition), r.putColumns t.name cs = .ok r' ∧ r'.Tidy ∧
      r'.locked = false ∧ r'.tables = ts ++ [t'] ∧ t'.name = t.name ∧
      t'.columnNames = t.columnNames ++ cs.map ColumnDefinition.name := by
  induction cs generalizing r t with
  | nil =>
    refine ⟨r, t, rfl, hr, unlocked, tables, rfl, ?_⟩
    rw [List.map_nil, List.append_nil]
  | cons c cs ih =>
    obtain ⟨identifier, identifiers⟩ := List.forall_mem_cons.mp identifiers
    obtain ⟨first, distinct⟩ := List.pairwise_cons.mp distinct
    obtain ⟨s, u, put, tidy, still, tables', name, columns⟩ := exists_putColumn hr unlocked tables
      identifier fun d hd => fresh d hd c List.mem_cons_self
    have fresh' : ∀ d ∈ u.columns, ∀ e ∈ cs, sameName d.name e.name = false := fun d hd e he => by
      rw [columns] at hd
      rcases List.mem_append.mp hd with hd | hd
      · exact fresh d hd e (List.mem_cons_of_mem c he)
      · obtain rfl := List.mem_singleton.mp hd
        exact first e he
    obtain ⟨r', t', rest, tidy', still', tables'', name', columns'⟩ :=
      ih tidy still tables' identifiers fresh' distinct
    refine ⟨r', t', ?_, tidy', still', tables'', name'.trans name, ?_⟩
    · rw [putColumns, List.foldlM_cons, put, ok_bind]
      rw [name] at rest
      exact rest
    · rw [columns', TableDefinition.columnNames, columns, List.map_append, List.append_assoc]
      rfl

/-- Constraints that are texts are kept with the table. -/
theorem replaceConstraints_texts {constraints : List TableConstraint}
    (found : r.requireTable name = .ok t)
    (texts : ∀ k ∈ constraints, ∃ text, k = .sql text) :
    r.replaceConstraints name constraints =
      .ok (r.putTable { t with constraints := constraintTexts constraints }) := by
  rw [replaceConstraints, found, ok_bind]
  generalize r.putTable { t with constraints := constraintTexts constraints } = s
  induction constraints with
  | nil => rfl
  | cons k constraints ih =>
    obtain ⟨⟨text, rfl⟩, others⟩ := List.forall_mem_cons.mp texts
    rw [List.foldlM_cons, ok_bind]
    exact ih others

/-- **A table with proper names that is new can be registered, and comes last in the outline.** -/
theorem exists_addTable (hr : r.Consistent) (unlocked : r.locked = false)
    (identifier : isIdentifier name = true)
    (fresh : ∀ t ∈ r.tables, sameName t.name name = false) {cs : List ColumnDefinition}
    (identifiers : ∀ c ∈ cs, isIdentifier c.name = true)
    (distinct : cs.Pairwise fun a b => sameName a.name b.name = false)
    {constraints : List TableConstraint} (texts : ∀ k ∈ constraints, ∃ text, k = .sql text) :
    ∃ r', r.addTable name cs constraints = .ok r' ∧ r'.Consistent ∧ r'.locked = false ∧
      r'.outline = r.outline ++ [(name, cs.map ColumnDefinition.name)] := by
  have clear : (r.cleared name).tables = r.tables ++ [⟨name, [], [], []⟩] :=
    Named.put_of_fresh fresh
  obtain ⟨s, u, put, tidy, still, tables, named, columns⟩ := exists_putColumns
    (hr.toTidy.cleared identifier) unlocked clear identifiers nofun distinct
  have hu : u ∈ s.tables := by
    rw [tables]
    exact List.mem_append_right _ (List.mem_singleton_self u)
  have found : s.requireTable name = .ok u :=
    requireTable_eq_ok tidy hu (Text.sameName_iff.mpr (congrArg lower named))
  obtain ⟨v, hv⟩ : ∃ v : TableDefinition,
      v = { u with constraints := constraintTexts constraints } := ⟨_, rfl⟩
  have replaced : (s.pruned u).replaceConstraints name constraints = .ok ((s.pruned u).putTable v) :=
    hv ▸ replaceConstraints_texts found texts
  have added : r.addTable name cs constraints = .ok ((s.pruned u).putTable v) := by
    calc r.addTable name cs constraints
        = (do
          let r ← (r.cleared name).putColumns name cs
          let t ← r.requireTable name
          (r.pruned t).replaceConstraints name constraints) := by
          rw [addTable, trim_of_isIdentifier identifier, checkIdentifier, if_pos identifier, ok_bind,
            ensureUnlocked, unlocked, if_neg Bool.false_ne_true]
          rfl
      _ = .ok ((s.pruned u).putTable v) := by
          rw [put, ok_bind, found, ok_bind, replaced]
  have result : r.perform (.addTable name cs constraints) = (s.pruned u).putTable v := by
    rw [perform, mutate, added]
  refine ⟨_, added, result ▸ hr.perform _, still, ?_⟩
  have last : ((s.pruned u).putTable v).tables = r.tables ++ [v] := by
    have others : ∀ z ∈ r.tables, sameName z.name v.name = false := fun z hz => by
      have apart := apart_of_last tidy tables hz
      rwa [hv]
    show Named.put TableDefinition.name v s.tables = _
    rw [tables]
    exact Named.put_last others (hv ▸ Text.sameName_refl u.name)
  have own : v.name = name ∧ v.columnNames = cs.map ColumnDefinition.name := by
    rw [hv]
    exact ⟨named, columns⟩
  rw [outline, last, List.map_append, List.map_singleton, own.1, own.2, outline]

/-- Columns that are there are not missing. -/
theorem checkColumns_eq_ok (hr : r.Tidy) (ht : t ∈ r.tables) {columns : List String}
    (there : ∀ c ∈ columns, c ∈ t.columnNames) : r.checkColumns t.name columns = .ok () := by
  have named := hr.named t ht
  have found : r.requireTable (trim t.name) = .ok t := by
    rw [trim_of_isIdentifier named.name]
    exact requireTable_eq_ok hr ht (Text.sameName_refl t.name)
  have none_missing : missingColumn? t columns = none :=
    List.find?_eq_none.mpr fun c hc => by
      obtain ⟨d, hd, rfl⟩ := List.mem_map.mp (there c hc)
      have column : t.column? d.name = some d := by
        rw [TableDefinition.column?, trim_of_isIdentifier (named.columns d hd)]
        exact (hr.columns t ht).find?_of_sameName hd (Text.sameName_refl d.name)
      rw [column]
      exact Bool.false_ne_true
  rw [checkColumns, found, ok_bind, none_missing]

/-- An index of columns that are there can be registered, and does not show in the outline. -/
theorem exists_addIndex (hr : r.Consistent) (unlocked : r.locked = false)
    (identifier : isIdentifier name = true) (ht : t ∈ r.tables) {columns : List String}
    (nonempty : columns ≠ []) (there : ∀ c ∈ columns, c ∈ t.columnNames) (unique : Bool) :
    ∃ r', r.addIndex name t.name columns unique = .ok r' ∧ r'.Consistent ∧ r'.locked = false ∧
      r'.outline = r.outline := by
  have bare := trim_of_isIdentifier (hr.named t ht).name
  have found : r.requireTable t.name = .ok t :=
    requireTable_eq_ok hr.toTidy ht (Text.sameName_refl t.name)
  obtain ⟨r', added⟩ : ∃ r', r.addIndex name t.name columns unique = .ok r' := by
    rw [addIndex, bare, trim_of_isIdentifier identifier, checkIdentifier, if_pos identifier,
      ok_bind, ensureUnlocked, unlocked, if_neg Bool.false_ne_true, ok_bind,
      if_neg (by simpa using nonempty), checkColumns_eq_ok hr.toTidy ht there, ok_bind, found,
      ok_bind]
    exact ⟨_, rfl⟩
  have result : r.perform (.addIndex name t.name columns unique) = r' := by
    rw [perform, mutate, added]
  obtain ⟨-, tables, -, locked⟩ := of_addIndex_ok added
  refine ⟨r', added, result ▸ hr.perform _, locked.trans unlocked, ?_⟩
  rw [outline, tables, outline]

/-- A trigger of a table that is there can be registered, and does not show in the outline. -/
theorem exists_registered (hr : r.Consistent) (unlocked : r.locked = false)
    (identifier : isIdentifier name = true) (there : r.tableExists table = true) (sql : String) :
    ∃ r', r.addTrigger name table sql = .ok r' ∧ r'.Consistent ∧ r'.locked = false ∧
      r'.outline = r.outline := by
  obtain ⟨t, ht⟩ := Option.isSome_iff_exists.mp there
  have found : r.requireTable (trim table) = .ok t := by
    rw [table?] at ht
    rw [requireTable, ht]
  have named : isIdentifier (trim name) = true := by
    rwa [trim_of_isIdentifier identifier]
  obtain ⟨r', added⟩ := exists_addTrigger unlocked named found sql
  have result : r.perform (.addTrigger name table sql) = r' := by
    rw [perform, mutate, added]
  refine ⟨r', added, result ▸ hr.perform _, ?_⟩
  simp only [addTrigger, checkIdentifier, if_pos named, ok_bind, found, ensureUnlocked, unlocked,
    if_neg Bool.false_ne_true] at added
  cases added
  refine ⟨unlocked, ?_⟩
  obtain ⟨mem, -⟩ := of_requireTable_ok found
  exact Named.map_put ⟨t, mem, Text.sameName_refl t.name⟩ fun u hu same => by
    obtain rfl := hr.tables.eq_of_sameName hu mem same
    rfl

end Steps

end Registry

end FilterStore
