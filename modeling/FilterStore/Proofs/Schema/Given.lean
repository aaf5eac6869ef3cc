import FilterStore.Proofs.Schema.Touch

/-!
# Columns that a table is given

A mutation can give a table columns, one after the other, and of two columns of one name the later
one counts.  A column that is given last stands in its table as the options complete it, and if it is
the column of last changes its touch trigger is registered (`Registry.has_of_gives`).  Nothing that
the mutation does behind it takes it away: columns of other names leave it where it is and bring no
touch trigger of their own, and indexes are registered beside the tables.

Afterwards a column is replaced by another one of its name or goes with its table, but nobody changes
it.  So every column of every table is one that was given, as the options complete it
(`Registry.completed_after`).
-/

namespace FilterStore

open Text (sameName trim)

/-- A mutation gives a column to the table of a name, and none of that name behind it. -/
inductive Mutation.Gives : Mutation → String → ColumnDefinition → Prop
  | addTable {name : String} {before after : List ColumnDefinition}
    {constraints : List TableConstraint} {c : ColumnDefinition}
    (last : ∀ d ∈ after, sameName d.name c.name = false) :
    Gives (.addTable name (before ++ c :: after) constraints) (trim name) c
  | setColumns {table : String} {before after : List ColumnDefinition} {c : ColumnDefinition}
    (last : ∀ d ∈ after, sameName d.name c.name = false) :
    Gives (.setColumns table (before ++ c :: after)) (trim table) c

namespace Registry

/-- The table of a name has a column, and its touch trigger if it is one of last changes. -/
def Has (r : Registry) (table : String) (c : ColumnDefinition) : Prop :=
  ∃ t ∈ r.tables, sameName t.name table = true ∧ c ∈ t.columns ∧
    (r.isChangeColumn c.name = true → r.touch t c ∈ r.triggers)

/-- Every column is one that was given, as the options complete it. -/
def Completed (r : Registry) : Prop :=
  ∀ t ∈ r.tables, ∀ c ∈ t.columns, ∃ d, isIdentifier d.name = true ∧ c = r.complete d

section Columns

variable {r r' s : Registry} {t : TableDefinition} {c d : ColumnDefinition} {table other : String}

theorem complete_congr (options : s.options = r.options) (c : ColumnDefinition) :
    s.complete c = r.complete c := by
  unfold complete isTimestamp isCreateColumn isChangeColumn timestampDefault timestampAffinity
  rw [options]

/-- What putting a column does: the table gets it, and lists its touch trigger if it is one of last
changes. -/
theorem of_putColumn_ok (hr : r.Tidy) (h : r.putColumn table c = .ok r') :
    ∃ t ∈ r.tables, ∃ u : TableDefinition, sameName t.name table = true ∧ u.name = t.name ∧
      u.columns = Named.put ColumnDefinition.name (r.complete c) t.columns ∧
      isIdentifier c.name = true ∧ r'.options = r.options ∧ r'.locked = r.locked ∧
      r'.tables = Named.put TableDefinition.name u r.tables ∧
      r'.triggers = if r.isChangeColumn c.name then
        Named.put TriggerDefinition.name (r.touch u (r.complete c)) r.triggers else r.triggers := by
  simp only [putColumn, bind_eq_ok_iff, checkIdentifier_eq_ok_iff] at h
  obtain ⟨_, identifier, t, found, h⟩ := h
  obtain ⟨ht, same⟩ := of_requireTable_ok found
  obtain ⟨u, hu⟩ : ∃ u : TableDefinition, u =
      { t with columns := Named.put ColumnDefinition.name (r.complete c) t.columns } := ⟨_, rfl⟩
  have name : u.name = t.name := by rw [hu]
  have columns : u.columns = Named.put ColumnDefinition.name (r.complete c) t.columns := by rw [hu]
  have filled : (r.putTable u).Tidy := by
    rw [hu]
    exact (Edit.column (r.complete c) identifier).tidy hr ht
  rw [← hu, ← name] at h
  by_cases changes : r.isChangeColumn c.name = true
  · have again : (r.putTable u).isChangeColumn (r.complete c).name = true := changes
    rw [if_pos again] at h
    have added := of_addTrigger_ok filled Named.mem_put_self
      (isIdentifier_touchName (name ▸ (hr.named t ht).name) identifier) h
    refine ⟨t, ht, u.listing (touchName u.name c.name), same, name, columns, identifier, ?_⟩
    rw [added, if_pos changes]
    refine ⟨rfl, rfl, ?_, rfl⟩
    exact Named.put_put (x := u.listing (touchName u.name c.name)) (Text.sameName_refl u.name) _
  · have again : ¬(r.putTable u).isChangeColumn (r.complete c).name = true := changes
    rw [if_neg again] at h
    cases h
    refine ⟨t, ht, u, same, name, columns, identifier, rfl, rfl, rfl, ?_⟩
    rw [if_neg changes]
    rfl

/-! ## Columns that stay -/

/-- A column is there when it has been put. -/
theorem has_of_putColumn (hr : r.Tidy) (h : r.putColumn table c = .ok r') :
    r'.Has table (r.complete c) := by
  obtain ⟨t, -, u, same, name, columns, -, options, -, tables, triggers⟩ := of_putColumn_ok hr h
  have there : u ∈ r'.tables := by
    rw [tables]
    exact Named.mem_put_self
  refine ⟨u, there, name ▸ same, columns ▸ Named.mem_put_self, fun changes => ?_⟩
  have configured : r.isChangeColumn c.name = true := by
    rw [isChangeColumn, ← options]
    exact changes
  rw [triggers, if_pos configured, touch_congr options]
  exact Named.mem_put_self

/-- A column stays where a column of another name is put. -/
theorem Has.putColumn (hr : r.Tidy) (h : r.Has table c) (hr' : r.putColumn other d = .ok r')
    (apart : sameName d.name c.name = false) : r'.Has table c := by
  obtain ⟨t, ht, same, hc, touched⟩ := h
  obtain ⟨v, hv, u, -, name, columns, -, options, -, tables, triggers⟩ := of_putColumn_ok hr hr'
  -- There is one column of last changes, so it cannot be both.
  have kept : r'.isChangeColumn c.name = true → r.touch t c ∈ r'.triggers := fun changes => by
    have configured : r.isChangeColumn c.name = true := by
      simpa only [isChangeColumn, options] using changes
    have quiet : ¬r.isChangeColumn d.name = true := fun both =>
      Bool.false_ne_true (apart.symm.trans (sameName_of_isChangeColumn both configured))
    rw [triggers, if_neg quiet]
    exact touched configured
  by_cases own : sameName t.name u.name = true
  · obtain rfl := hr.tables.eq_of_sameName ht hv (name ▸ own)
    have there : c ∈ u.columns := by
      rw [columns]
      exact Named.mem_put_of_mem hc ((Text.sameName_comm _ _).trans apart)
    refine ⟨u, tables ▸ Named.mem_put_self, name ▸ same, there, fun changes => ?_⟩
    have renamed : r'.touch u c = r.touch t c := by
      rw [touch_congr options, Registry.touch, Registry.touch, name]
    exact renamed ▸ kept changes
  · refine ⟨t, tables ▸ Named.mem_put_of_mem ht (Bool.eq_false_iff.mpr own), same, hc, ?_⟩
    intro changes
    rw [touch_congr options]
    exact kept changes

/-- What a table has depends on options, tables and triggers. -/
theorem Has.congr (h : r.Has table c) (options : r'.options = r.options)
    (tables : r'.tables = r.tables) (triggers : r'.triggers = r.triggers) : r'.Has table c := by
  obtain ⟨t, ht, same, hc, touched⟩ := h
  refine ⟨t, tables ▸ ht, same, hc, fun changes => ?_⟩
  have configured : r.isChangeColumn c.name = true := by
    rw [isChangeColumn, ← options]
    exact changes
  rw [touch_congr options, triggers]
  exact touched configured

/-- An index is registered beside tables and triggers. -/
theorem of_addIndex_ok {name : String} {columns : List String} {unique : Bool}
    (h : r.addIndex name table columns unique = .ok r') :
    r'.options = r.options ∧ r'.tables = r.tables ∧ r'.triggers = r.triggers ∧
      r'.locked = r.locked := by
  simp only [addIndex, bind_eq_ok_iff] at h
  obtain ⟨_, -, _, -, h⟩ := h
  split at h
  · cases h
  · simp only [bind_eq_ok_iff] at h
    obtain ⟨_, -, t, -, h⟩ := h
    cases h
    exact ⟨rfl, rfl, rfl, rfl⟩

/-- What constraints keep, if it does not hang on the constraints of a table or on indexes. -/
theorem of_replaceConstraints_ok {P : Registry → Prop} {constraints : List TableConstraint}
    (texts : ∀ t ∈ r.tables, ∀ texts, P (r.putTable { t with constraints := texts }))
    (indexes : ∀ {s s' : Registry}, P s → s'.options = s.options → s'.tables = s.tables →
      s'.triggers = s.triggers → P s')
    (h : r.replaceConstraints table constraints = .ok r') : P r' := by
  simp only [replaceConstraints, bind_eq_ok_iff] at h
  obtain ⟨t, found, h⟩ := h
  refine foldlM_induct (fun s c s' hs step => ?_)
    (texts t (mem_tables_of_requireTable found) _) h
  cases c with
  | sql text =>
    cases step
    exact hs
  | index name columns unique =>
    obtain ⟨options, tables, triggers, -⟩ := of_addIndex_ok step
    exact indexes hs options tables triggers

theorem Has.replaceConstraints (hr : r.Tidy) (h : r.Has table c)
    {constraints : List TableConstraint} (hr' : r.replaceConstraints other constraints = .ok r') :
    r'.Has table c := by
  refine of_replaceConstraints_ok (P := fun s => s.Has table c) (fun v hv texts => ?_)
    (fun hs options tables triggers => hs.congr options tables triggers) hr'
  obtain ⟨t, ht, same, hc, touched⟩ := h
  by_cases own : sameName t.name v.name = true
  · obtain rfl := hr.tables.eq_of_sameName ht hv own
    exact ⟨{ t with constraints := texts }, Named.mem_put_self, same, hc, touched⟩
  · exact ⟨t, Named.mem_put_of_mem ht (Bool.eq_false_iff.mpr own), same, hc, touched⟩

/-- The column that is given last is there when all have been put. -/
theorem has_of_putColumns (hr : r.Tidy) {before after : List ColumnDefinition}
    (last : ∀ d ∈ after, sameName d.name c.name = false)
    (h : r.putColumns table (before ++ c :: after) = .ok r') : r'.Has table (r.complete c) := by
  simp only [putColumns, List.foldlM_append, List.foldlM_cons, bind_eq_ok_iff] at h
  obtain ⟨s₁, first, s₂, put, rest⟩ := h
  have edits := edits_of_putColumns hr.named first
  have tidy : s₁.Tidy := (edits.tidy_keeps hr).1
  have tidy' : s₂.Tidy := ((edits_of_putColumn tidy.named put).tidy_keeps tidy).1
  have given := has_of_putColumn tidy put
  rw [complete_congr edits.options] at given
  have both : ∀ after : List ColumnDefinition, (∀ d ∈ after, sameName d.name c.name = false) →
      ∀ s : Registry, s.Tidy → s.Has table (r.complete c) →
      s.putColumns table after = .ok r' → r'.Has table (r.complete c) := by
    intro after
    induction after with
    | nil =>
      intro _ s _ has done
      cases done
      exact has
    | cons d after ih =>
      intro last s tidy has done
      rw [Registry.putColumns, List.foldlM_cons, bind_eq_ok_iff] at done
      obtain ⟨s', step, done⟩ := done
      exact ih (fun e he => last e (List.mem_cons_of_mem d he)) s'
        ((edits_of_putColumn tidy.named step).tidy_keeps tidy).1
        (has.putColumn tidy step (last d List.mem_cons_self)) done
  exact both after last s₂ tidy' given rest

/-- **A column that is given last stands in its table as the options complete it, with its touch
trigger if it is one of last changes.** -/
theorem has_of_gives (hr : r.Tidy) {m : Mutation} (h : r.mutate m = .ok r')
    (gives : m.Gives table c) : r'.Has table (r.complete c) := by
  cases gives with
  | addTable last =>
    simp only [mutate, addTable, bind_eq_ok_iff, checkIdentifier_eq_ok_iff] at h
    obtain ⟨_, identifier, _, -, s, hs, t, -, h⟩ := h
    have clear := hr.cleared identifier
    have filled : s.Tidy := ((edits_of_putColumns clear.named hs).tidy_keeps clear).1
    have given := has_of_putColumns clear last hs
    have pruned := given.congr (rfl : (s.pruned t).options = s.options) rfl rfl
    exact pruned.replaceConstraints (filled.pruned t) h
  | setColumns last =>
    simp only [mutate, setColumns, bind_eq_ok_iff] at h
    obtain ⟨_, -, _, -, h⟩ := h
    exact has_of_putColumns hr last h

/-! ## Where columns come from -/

theorem Completed.congr (h : r.Completed) (options : r'.options = r.options)
    (tables : r'.tables = r.tables) : r'.Completed := by
  intro t ht c hc
  obtain ⟨d, identifier, rfl⟩ := h t (tables ▸ ht) c hc
  exact ⟨d, identifier, (complete_congr options d).symm⟩

theorem Completed.putTable (h : r.Completed)
    (columns : ∀ c ∈ t.columns, ∃ d, isIdentifier d.name = true ∧ c = r.complete d) :
    (r.putTable t).Completed := by
  intro u hu
  rcases Named.eq_or_mem_of_mem_put hu with rfl | hu
  · exact columns
  · exact h u hu

theorem Completed.putColumn (hr : r.Tidy) (h : r.Completed) (hr' : r.putColumn table c = .ok r') :
    r'.Completed := by
  obtain ⟨t, ht, u, -, -, columns, identifier, options, -, tables, -⟩ := of_putColumn_ok hr hr'
  have put : (r.putTable u).Completed := h.putTable fun e he => by
    rw [columns] at he
    rcases Named.eq_or_mem_of_mem_put he with rfl | he
    · exact ⟨c, identifier, rfl⟩
    · exact h t ht e he
  exact put.congr options tables

theorem Completed.putColumns (hr : r.Tidy) (h : r.Completed) {columns : List ColumnDefinition}
    (hr' : r.putColumns table columns = .ok r') : r'.Completed := by
  have both : r'.Tidy ∧ r'.Completed :=
    foldlM_induct (P := fun s => s.Tidy ∧ s.Completed)
      (fun s c s' hs step => ⟨((edits_of_putColumn hs.1.named step).tidy_keeps hs.1).1,
        hs.2.putColumn hs.1 step⟩)
      ⟨hr, h⟩ hr'
  exact both.2

theorem Completed.replaceConstraints (h : r.Completed) {constraints : List TableConstraint}
    (hr' : r.replaceConstraints table constraints = .ok r') : r'.Completed :=
  of_replaceConstraints_ok (P := Completed) (fun t ht _ => h.putTable (h t ht))
    (fun hs options tables _ => hs.congr options tables) hr'

theorem Completed.mutate (hr : r.Tidy) (h : r.Completed) {m : Mutation}
    (hr' : r.mutate m = .ok r') : r'.Completed := by
  cases m with
  | addTable name columns constraints =>
    simp only [Registry.mutate, addTable, bind_eq_ok_iff, checkIdentifier_eq_ok_iff] at hr'
    obtain ⟨_, identifier, _, -, s, hs, t, -, hr'⟩ := hr'
    have blank : (r.putTable ⟨trim name, [], [], []⟩).Completed :=
      h.putTable fun c hc => absurd hc List.not_mem_nil
    have clear : (r.cleared (trim name)).Completed := blank.congr rfl rfl
    have filled := clear.putColumns (hr.cleared identifier) hs
    have pruned : (s.pruned t).Completed := filled.congr rfl rfl
    exact pruned.replaceConstraints hr'
  | setColumns table columns =>
    simp only [Registry.mutate, setColumns, bind_eq_ok_iff] at hr'
    obtain ⟨_, -, _, -, hr'⟩ := hr'
    exact h.putColumns hr hr'
  | setConstraints table constraints =>
    simp only [Registry.mutate, setConstraints, bind_eq_ok_iff] at hr'
    obtain ⟨_, -, _, -, hr'⟩ := hr'
    exact h.replaceConstraints hr'
  | addIndex name table columns unique =>
    obtain ⟨options, tables, -, -⟩ := of_addIndex_ok hr'
    exact h.congr options tables
  | addTrigger name table sql =>
    simp only [Registry.mutate, addTrigger, bind_eq_ok_iff] at hr'
    obtain ⟨_, -, t, found, _, -, hr'⟩ := hr'
    cases hr'
    have listed := h.putTable (t := t.listing (trim name)) (h t (mem_tables_of_requireTable found))
    exact listed.congr rfl rfl
  | lock =>
    cases hr'
    exact h.congr rfl rfl

end Columns

/-- **Every column of every table is one that was given, as the options complete it.** -/
theorem completed_after (options : RegistryOptions) (ms : List Mutation) :
    (after options ms).Completed := by
  refine after_induct (P := Completed) nofun (fun r m consistent h => ?_) ms
  unfold perform
  split
  · rename_i r' hr'
    exact h.mutate consistent.toTidy hr'
  · exact h

end Registry

end FilterStore
