import FilterStore.Proofs.Schema.Listing

/-!
# Triggers of last changes

A table with a column of last changes has a trigger that keeps this column up to date.  Nobody asks
for the trigger: it is registered with the column, replaced with it, and goes when its table is
replaced.  So where nobody registers a trigger by hand, the registered triggers follow from the
tables: they are the *touch triggers* of the columns of last changes, and nothing else
(`Registry.Touched`).

There is one name for columns of last changes, so a table has at most one such column, and its touch
trigger is named after table and column.  What is behind the table in this name is the same for all
tables up to the case of letters.  That is why the name tells the table (`sameName_of_touchName`):
two tables never want the same name for their triggers, although all triggers share one space of
names.

Not every small step keeps the triggers in line with the tables, because a column is put into its
table before its trigger is registered.  So the argument goes through the functions that change a
registry, and takes both steps together (`Touched.putColumn`).
-/

namespace FilterStore

open Text (lower sameName trim)

theorem Text.lower_append (s t : String) : lower (s ++ t) = lower s ++ lower t := by
  simp only [lower, String.toList_append, List.map_append, String.ofList_append]

/-- Of two things of one name the one that is put last is left. -/
theorem Named.put_put {α : Type} {nameOf : α → String} {x y : α}
    (same : sameName (nameOf y) (nameOf x) = true) (xs : List α) :
    put nameOf x (put nameOf y xs) = put nameOf x xs := by
  have alike : ∀ z, sameName (nameOf z) (nameOf y) = sameName (nameOf z) (nameOf x) := fun z => by
    rw [Text.sameName_iff] at same
    rw [sameName, sameName, same]
  induction xs with
  | nil => simp only [put, same, if_true]
  | cons z zs ih =>
    rw [put, put, alike z]
    by_cases there : sameName (nameOf z) (nameOf x) = true
    · simp only [there, if_true, put, same]
    · simp only [there, if_false, put, ih, Bool.false_eq_true]

namespace Registry

/-! ## Touch triggers -/

/-- The trigger that keeps a column of last changes up to date. -/
def touch (r : Registry) (t : TableDefinition) (c : ColumnDefinition) : TriggerDefinition where
  name := touchName t.name c.name
  table := t.name
  sql := trim (touchSql t.name c.name r.timestampAffinity.nowExpression)

@[simp] theorem touch_name (r : Registry) (t : TableDefinition) (c : ColumnDefinition) :
    (r.touch t c).name = touchName t.name c.name := rfl

@[simp] theorem touch_table (r : Registry) (t : TableDefinition) (c : ColumnDefinition) :
    (r.touch t c).table = t.name := rfl

theorem touch_congr {r s : Registry} (options : s.options = r.options) (t : TableDefinition)
    (c : ColumnDefinition) : s.touch t c = r.touch t c := by
  rw [Registry.touch, Registry.touch, timestampAffinity, timestampAffinity, options]

/-- The registered triggers are the touch triggers of the registered tables. -/
def Touched (r : Registry) : Prop :=
  ∀ g, g ∈ r.triggers ↔
    ∃ t ∈ r.tables, ∃ c ∈ t.columns, r.isChangeColumn c.name = true ∧ g = r.touch t c

/-- The triggers that are registered for a table. -/
def triggersOf (r : Registry) (t : TableDefinition) : List TriggerDefinition :=
  r.triggers.filter fun g => sameName g.table t.name

theorem isIdentifier_touchName {table column : String} (ht : isIdentifier table = true)
    (hc : isIdentifier column = true) : isIdentifier (touchName table column) = true := by
  have score : ('_' == '_') = true := rfl
  have ending : "_touch".toList.all (fun c => Text.isAlphanumeric c || c == '_') = true := by
    decide +kernel
  simp only [isIdentifier, Bool.and_eq_true, Bool.not_eq_true'] at ht hc ⊢
  refine ⟨?_, ?_⟩
  · simp [touchName]
  · simp only [touchName, String.toList_append, List.all_append, ht.2, hc.2, ending, Bool.and_true,
      Bool.true_and]
    decide +kernel

/-- The name of a touch trigger tells its table, if all columns of last changes have one name. -/
theorem sameName_of_touchName {table other column column' : String}
    (columns : sameName column column' = true)
    (h : sameName (touchName table column) (touchName other column') = true) :
    sameName table other = true := by
  rw [Text.sameName_iff] at *
  simp only [touchName, Text.lower_append, columns, String.append_assoc] at h
  exact String.append_left_inj _ |>.mp h

section Columns

variable {r r' : Registry} {t u : TableDefinition} {c d : ColumnDefinition} {name table : String}

theorem putTable_putTable (named : u.name = t.name) :
    (r.putTable t).putTable u = r.putTable u := by
  have twice : Named.put TableDefinition.name u (Named.put TableDefinition.name t r.tables) =
      Named.put TableDefinition.name u r.tables :=
    Named.put_put (named ▸ Text.sameName_refl u.name) r.tables
  rw [Registry.putTable, Registry.putTable, Registry.putTable, twice]

/-- Columns of last changes have one name. -/
theorem sameName_of_isChangeColumn {a b : String} (ha : r.isChangeColumn a = true)
    (hb : r.isChangeColumn b = true) : sameName a b = true := by
  unfold isChangeColumn isNamed at ha hb
  split at ha
  · rename_i configured found
    rw [found] at hb
    rw [Text.sameName_comm] at ha
    exact Text.sameName_trans ha hb
  · cases ha

/-- Another spelling of a column of last changes is one as well. -/
theorem isChangeColumn_of_sameName {a b : String} (ha : r.isChangeColumn a = true)
    (same : sameName a b = true) : r.isChangeColumn b = true := by
  unfold isChangeColumn isNamed at *
  split at ha
  · exact Text.sameName_trans ha same
  · cases ha

/-- Touch triggers of one name are of one table. -/
theorem sameName_of_touch (hc : r.isChangeColumn c.name = true)
    (hd : r.isChangeColumn d.name = true)
    (h : sameName (r.touch t c).name (r.touch u d).name = true) : sameName t.name u.name = true :=
  sameName_of_touchName (sameName_of_isChangeColumn hc hd) h

/-! ## What mutations keep -/

/-- Which triggers there should be depends on options, on the names of tables and on their columns
of last changes. -/
theorem Touched.putTable (hr : r.Tidy) (h : r.Touched) (ht : t ∈ r.tables) (named : u.name = t.name)
    (columns : ∀ c, r.isChangeColumn c.name = true → (c ∈ u.columns ↔ c ∈ t.columns)) :
    (r.putTable u).Touched := by
  have put : ∀ v, v ∈ (r.putTable u).tables ↔
      v = u ∨ v ∈ r.tables ∧ sameName v.name u.name = false :=
    fun v => hr.tables.mem_put_iff
  have touch : ∀ c, r.touch u c = r.touch t c := fun c => by simp only [Registry.touch, named]
  intro g
  refine (h g).trans ⟨?_, ?_⟩
  · rintro ⟨v, hv, c, hc, changes, rfl⟩
    cases same : sameName v.name u.name with
    | false => exact ⟨v, (put v).mpr (.inr ⟨hv, same⟩), c, hc, changes, rfl⟩
    | true =>
      obtain rfl := hr.tables.eq_of_sameName hv ht (named ▸ same)
      exact ⟨u, (put u).mpr (.inl rfl), c, (columns c changes).mpr hc, changes, (touch c).symm⟩
  · rintro ⟨v, hv, c, hc, changes, rfl⟩
    rcases (put v).mp hv with rfl | ⟨there, -⟩
    · exact ⟨t, ht, c, (columns c changes).mp hc, changes, touch c⟩
    · exact ⟨v, there, c, hc, changes, rfl⟩

/-- A column of last changes comes with its trigger, in the place of the one its table had. -/
theorem Touched.putTouch (hr : r.Tidy) (h : r.Touched) (changes : r.isChangeColumn c.name = true)
    (columns : ∀ d, r.isChangeColumn d.name = true → (d ∈ u.columns ↔ d = c)) :
    { r.putTable u with
      triggers := Named.put TriggerDefinition.name (r.touch u c) r.triggers }.Touched := by
  have put : ∀ v, v ∈ (r.putTable u).tables ↔
      v = u ∨ v ∈ r.tables ∧ sameName v.name u.name = false :=
    fun v => hr.tables.mem_put_iff
  intro g
  refine hr.triggers.mem_put_iff.trans ⟨?_, ?_⟩
  · rintro (rfl | ⟨old, other⟩)
    · exact ⟨u, (put u).mpr (.inl rfl), c, (columns c changes).mpr rfl, changes, rfl⟩
    · obtain ⟨v, hv, d, hd, changes', rfl⟩ := (h g).mp old
      refine ⟨v, (put v).mpr (.inr ⟨hv, ?_⟩), d, hd, changes', rfl⟩
      rw [← Bool.not_eq_true] at other ⊢
      intro same
      -- The trigger that the table has had has the same name.
      refine other (Text.sameName_iff.mpr ?_)
      have column := Text.sameName_iff.mp (sameName_of_isChangeColumn changes' changes)
      rw [Text.sameName_iff] at same
      simp only [Registry.touch, touchName, Text.lower_append, same, column]
  · rintro ⟨v, hv, d, hd, changes', rfl⟩
    rcases (put v).mp hv with rfl | ⟨there, other⟩
    · obtain rfl := (columns d changes').mp hd
      exact .inl rfl
    · refine .inr ⟨(h _).mpr ⟨v, there, d, hd, changes', rfl⟩, ?_⟩
      rw [← Bool.not_eq_true] at other ⊢
      exact fun clash => other (sameName_of_touch changes' changes clash)

/-- Registering a trigger by the names of itself and of its table, both without blanks around. -/
theorem of_addTrigger_ok {sql : String} (hr : r.Tidy) (ht : t ∈ r.tables)
    (identifier : isIdentifier name = true) (h : r.addTrigger name t.name sql = .ok r') :
    r' = { r.putTable (t.listing name) with
      triggers := Named.put TriggerDefinition.name ⟨name, t.name, trim sql⟩ r.triggers } := by
  simp only [addTrigger, bind_eq_ok_iff] at h
  obtain ⟨_, -, v, found, _, -, h⟩ := h
  obtain ⟨mem, same⟩ := of_requireTable_ok found
  rw [trim_of_isIdentifier (hr.named t ht).name] at same
  obtain rfl := hr.tables.eq_of_sameName mem ht same
  rw [trim_of_isIdentifier identifier] at h
  cases h
  rfl

theorem Touched.putColumn (hr : r.Tidy) (h : r.Touched) (hr' : r.putColumn table c = .ok r') :
    r'.Touched := by
  simp only [Registry.putColumn, bind_eq_ok_iff, checkIdentifier_eq_ok_iff] at hr'
  obtain ⟨_, identifier, t, found, hr'⟩ := hr'
  have ht := mem_tables_of_requireTable found
  have named := hr.named t ht
  obtain ⟨u, hu⟩ : ∃ u : TableDefinition, u =
      { t with columns := Named.put ColumnDefinition.name (r.complete c) t.columns } := ⟨_, rfl⟩
  have name : u.name = t.name := by rw [hu]
  have columns : ∀ d, d ∈ u.columns ↔
      d = r.complete c ∨ d ∈ t.columns ∧ sameName d.name (r.complete c).name = false := fun d => by
    rw [hu]
    exact (hr.columns t ht).mem_put_iff
  have filled : (r.putTable u).Tidy := by
    rw [hu]
    exact (Edit.column (r.complete c) identifier).tidy hr ht
  rw [← hu, ← name] at hr'
  split at hr'
  · rename_i changes
    -- The touch trigger takes the place of the one that the table had, if it had one.
    rw [of_addTrigger_ok filled Named.mem_put_self
      (isIdentifier_touchName (name ▸ named.name) identifier) hr']
    have once : (r.putTable u).putTable (u.listing (touchName u.name c.name)) =
        r.putTable (u.listing (touchName u.name c.name)) := putTable_putTable rfl
    have touched := h.putTouch hr (u := u.listing (touchName u.name c.name)) (c := r.complete c)
      changes fun d changes' => (columns d).trans ⟨fun hd => hd.resolve_right fun old => ?_, .inl⟩
    · rw [← once] at touched
      exact touched
    · have same := sameName_of_isChangeColumn changes' changes
      exact absurd old.2 (by rw [same]; exact Bool.noConfusion)
  · rename_i quiet
    cases hr'
    refine h.putTable hr ht name fun d changes => (columns d).trans ⟨fun hd => ?_, fun hd => ?_⟩
    · rcases hd with rfl | old
      · exact absurd changes quiet
      · exact old.1
    · refine .inr ⟨hd, ?_⟩
      rw [← Bool.not_eq_true]
      exact fun same => quiet (isChangeColumn_of_sameName changes same)

theorem Touched.putColumns (hr : r.Tidy) (h : r.Touched) {columns : List ColumnDefinition}
    (hr' : r.putColumns table columns = .ok r') : r'.Touched := by
  have both : r'.Tidy ∧ r'.Touched :=
    foldlM_induct (P := fun s => s.Tidy ∧ s.Touched)
      (fun s c s' hs step => ⟨((edits_of_putColumn hs.1.named step).tidy_keeps hs.1).1,
        hs.2.putColumn hs.1 step⟩)
      ⟨hr, h⟩ hr'
  exact both.2

/-- Indexes do not matter. -/
theorem Touched.congr (h : r.Touched) (options : r'.options = r.options)
    (tables : r'.tables = r.tables) (triggers : r'.triggers = r.triggers) : r'.Touched := by
  have changes : ∀ a, r'.isChangeColumn a = r.isChangeColumn a := fun a => by
    simp only [isChangeColumn, options]
  intro g
  simp only [tables, triggers, touch_congr options, changes]
  exact h g

theorem Touched.addIndex (h : r.Touched) {columns : List String} {unique : Bool}
    (hr' : r.addIndex name table columns unique = .ok r') : r'.Touched := by
  simp only [Registry.addIndex, bind_eq_ok_iff] at hr'
  obtain ⟨_, -, _, -, hr'⟩ := hr'
  split at hr'
  · cases hr'
  · simp only [bind_eq_ok_iff] at hr'
    obtain ⟨_, -, t, -, hr'⟩ := hr'
    cases hr'
    exact h.congr rfl rfl rfl

theorem Touched.replaceConstraints (hr : r.Tidy) (h : r.Touched)
    {constraints : List TableConstraint}
    (hr' : r.replaceConstraints table constraints = .ok r') : r'.Touched := by
  simp only [Registry.replaceConstraints, bind_eq_ok_iff] at hr'
  obtain ⟨t, found, hr'⟩ := hr'
  have texts : (r.putTable { t with constraints := constraintTexts constraints }).Touched :=
    h.putTable hr (mem_tables_of_requireTable found) rfl fun _ _ => .rfl
  refine foldlM_induct (fun s c s' hs step => ?_) texts hr'
  cases c with
  | sql text =>
    cases step
    exact hs
  | index name columns unique => exact Touched.addIndex hs step

/-- A table that is cleared has no columns, and its triggers are gone. -/
theorem Touched.cleared (hr : r.Tidy) (h : r.Touched) (name : String) :
    (r.cleared name).Touched := by
  have put : ∀ v, v ∈ (r.cleared name).tables ↔
      v = ⟨name, [], [], []⟩ ∨ v ∈ r.tables ∧ sameName v.name name = false :=
    fun v => hr.tables.mem_put_iff
  intro g
  refine List.mem_filter.trans ⟨?_, ?_⟩
  · rintro ⟨old, other⟩
    obtain ⟨v, hv, c, hc, changes, rfl⟩ := (h g).mp old
    rw [touch_table, Bool.not_eq_true'] at other
    exact ⟨v, (put v).mpr (.inr ⟨hv, other⟩), c, hc, changes, rfl⟩
  · rintro ⟨v, hv, c, hc, changes, rfl⟩
    rcases (put v).mp hv with rfl | ⟨there, other⟩
    · exact absurd hc List.not_mem_nil
    · refine ⟨(h _).mpr ⟨v, there, c, hc, changes, rfl⟩, ?_⟩
      exact congrArg Bool.not other

theorem Touched.addTable (hr : r.Tidy) (h : r.Touched) {columns : List ColumnDefinition}
    {constraints : List TableConstraint} (hr' : r.addTable name columns constraints = .ok r') :
    r'.Touched := by
  simp only [Registry.addTable, bind_eq_ok_iff, checkIdentifier_eq_ok_iff] at hr'
  obtain ⟨_, identifier, _, -, s, hs, t, -, hr'⟩ := hr'
  have clear := hr.cleared identifier
  have filled : s.Tidy := ((edits_of_putColumns clear.named hs).tidy_keeps clear).1
  have touched : s.Touched := (h.cleared hr (trim name)).putColumns clear hs
  have pruned : (s.pruned t).Touched := touched.congr rfl rfl rfl
  exact pruned.replaceConstraints (filled.pruned t) hr'

/-- **What a mutation other than registering a trigger keeps.** -/
theorem Touched.mutate (hr : r.Tidy) (h : r.Touched) {m : Mutation}
    (hm : ∀ name table sql, m ≠ .addTrigger name table sql) (hr' : r.mutate m = .ok r') :
    r'.Touched := by
  cases m with
  | addTable name columns constraints => exact h.addTable hr hr'
  | setColumns table columns =>
    simp only [Registry.mutate, setColumns, bind_eq_ok_iff] at hr'
    obtain ⟨_, -, _, -, hr'⟩ := hr'
    exact h.putColumns hr hr'
  | setConstraints table constraints =>
    simp only [Registry.mutate, setConstraints, bind_eq_ok_iff] at hr'
    obtain ⟨_, -, _, -, hr'⟩ := hr'
    exact h.replaceConstraints hr hr'
  | addIndex name table columns unique => exact h.addIndex hr'
  | addTrigger name table sql => exact absurd rfl (hm name table sql)
  | lock =>
    cases hr'
    exact h.congr rfl rfl rfl

end Columns

/-! ## Registries without triggers of their own -/

theorem touched_empty (options : RegistryOptions) : (empty options).Touched :=
  fun _ => ⟨fun hg => absurd hg List.not_mem_nil, fun ⟨_, ht, _⟩ => absurd ht List.not_mem_nil⟩

theorem Touched.perform {r : Registry} (hr : r.Tidy) (h : r.Touched) {m : Mutation}
    (hm : ∀ name table sql, m ≠ .addTrigger name table sql) : (r.perform m).Touched := by
  unfold Registry.perform
  split
  · rename_i r' hr'
    exact h.mutate hr hm hr'
  · exact h

theorem Edit.options {r r' : Registry} {t : TableDefinition} (h : Edit r t r') :
    r'.options = r.options := by
  cases h <;> rfl

theorem Edits.options {r r' : Registry} {name : String} (h : Edits name r r') :
    r'.options = r.options := by
  induction h with
  | refl => rfl
  | tail _ step ih =>
    obtain ⟨_, -, -, edit⟩ := step
    exact edit.options.trans ih

theorem Change.options {r r' : Registry} (h : Change r r') : r'.options = r.options := by
  cases h with
  | edits name h => exact h.options
  | table name _ columns _ _ constraints =>
    have filled := columns.options
    exact constraints.options.trans filled
  | lock => rfl

/-- Nothing changes the options. -/
theorem options_after (options : RegistryOptions) (ms : List Mutation) :
    (after options ms).options = options := by
  refine after_induct (P := fun r => r.options = options) rfl (fun r m hr same => ?_) ms
  rcases change_of_perform hr.named m with unchanged | change
  · rw [unchanged, same]
  · rw [change.options, same]

theorem touched_after (options : RegistryOptions) {ms : List Mutation}
    (hm : ∀ name table sql, .addTrigger name table sql ∉ ms) : (after options ms).Touched := by
  induction ms using List.reverseRecOn with
  | nil => exact touched_empty options
  | append_singleton ms m ih =>
    have before : ∀ name table sql, .addTrigger name table sql ∉ ms := fun name table sql there =>
      hm name table sql (List.mem_append_left _ there)
    have tidy : (after options ms).Consistent :=
      after_induct (consistent_empty options) (fun _ m hr _ => hr.perform m) ms
    rw [after_append]
    exact (ih before).perform tidy.toTidy fun name table sql same =>
      hm name table sql (List.mem_append_right _ (same ▸ List.mem_singleton_self m))

section Exactly

variable {r : Registry} {t u : TableDefinition}

/-- The column of last changes of a table, if it has one. -/
def changeColumn? (r : Registry) (t : TableDefinition) : Option ColumnDefinition :=
  t.columns.find? fun c => r.isChangeColumn c.name

/-- A table has its touch trigger and no other. -/
theorem Touched.triggersOf (hr : r.Tidy) (h : r.Touched) (ht : t ∈ r.tables) :
    r.triggersOf t = ((r.changeColumn? t).map (r.touch t)).toList := by
  have own : ∀ g, g ∈ r.triggersOf t ↔
      ∃ c ∈ t.columns, r.isChangeColumn c.name = true ∧ g = r.touch t c := by
    intro g
    refine List.mem_filter.trans ⟨?_, ?_⟩
    · rintro ⟨hg, same⟩
      obtain ⟨v, hv, c, hc, changes, rfl⟩ := (h g).mp hg
      obtain rfl := hr.tables.eq_of_sameName hv ht same
      exact ⟨c, hc, changes, rfl⟩
    · rintro ⟨c, hc, changes, rfl⟩
      exact ⟨(h _).mpr ⟨t, ht, c, hc, changes, rfl⟩, Text.sameName_refl t.name⟩
  have once : (r.triggersOf t).Nodup := (hr.triggers.filter _).of_map
  cases found : r.changeColumn? t with
  | none =>
    refine List.eq_nil_iff_forall_not_mem.mpr fun g hg => ?_
    obtain ⟨c, hc, changes, -⟩ := (own g).mp hg
    exact List.find?_eq_none.mp found c hc changes
  | some c =>
    have changes := List.find?_some found
    have hc := List.mem_of_find?_eq_some found
    refine List.perm_singleton.mp ((List.perm_ext_iff_of_nodup once (List.nodup_singleton _)).mpr
      fun g => (own g).trans ⟨?_, fun hg => ⟨c, hc, changes, List.mem_singleton.mp hg⟩⟩)
    rintro ⟨d, hd, changes', rfl⟩
    obtain rfl := (hr.columns t ht).eq_of_sameName hd hc
      (sameName_of_isChangeColumn changes' changes)
    exact List.mem_singleton_self _

/-- Between registries with nothing but touch triggers, no trigger goes to another table. -/
theorem Touched.not_moves {r' : Registry} (h : r.Touched) (h' : r'.Touched)
    (options : r'.options = r.options) : ¬ Moves r r' := by
  rintro ⟨g, hg, g', hg', same, apart⟩
  obtain ⟨t, -, c, -, changes, rfl⟩ := (h g).mp hg
  obtain ⟨u, -, d, -, changes', rfl⟩ := (h' g').mp hg'
  have configured : r.isChangeColumn d.name = true := by
    simpa only [isChangeColumn, options] using changes'
  have stays := sameName_of_touchName (sameName_of_isChangeColumn changes configured) same
  rw [touch_table, touch_table, stays] at apart
  cases apart

end Exactly

/-- **Where nobody registers triggers, a table has one trigger if it has a column of last changes,
and none if it has not.**  The trigger is the touch trigger of this column.  There are no other
triggers, no two tables share one, and none ever goes from one table to another. -/
theorem triggersOf_after (options : RegistryOptions) (ms : List Mutation)
    (hm : ∀ name table sql, .addTrigger name table sql ∉ ms) :
    let r := after options ms
    (∀ t ∈ r.tables, r.triggersOf t =
        ((t.columns.find? fun c => isNamed options.changeColumn c.name).map (r.touch t)).toList) ∧
      (∀ g ∈ r.triggers, ∃ t ∈ r.tables, g ∈ r.triggersOf t) ∧
      (∀ t ∈ r.tables, ∀ u ∈ r.tables, ∀ g ∈ r.triggersOf t, ∀ g' ∈ r.triggersOf u,
        sameName g.name g'.name = true → t = u) ∧
      ∀ p m, p ++ [m] <+: ms → ¬ Moves (after options p) (after options (p ++ [m])) := by
  intro r
  have consistent : r.Consistent :=
    after_induct (consistent_empty options) (fun _ m hr _ => hr.perform m) ms
  have touched : r.Touched := touched_after options hm
  refine ⟨fun t ht => ?_, fun g hg => ?_, fun t ht u hu g hg g' hg' same => ?_, fun p m hp => ?_⟩
  · have alone := touched.triggersOf consistent.toTidy ht
    have configured : r.options = options := options_after options ms
    simpa only [changeColumn?, isChangeColumn, configured] using alone
  · obtain ⟨t, ht, c, -, -, rfl⟩ := (touched g).mp hg
    exact ⟨t, ht, List.mem_filter.mpr ⟨hg, Text.sameName_refl t.name⟩⟩
  · obtain ⟨hg, own⟩ := List.mem_filter.mp hg
    obtain ⟨hg', own'⟩ := List.mem_filter.mp hg'
    obtain rfl := consistent.triggers.eq_of_sameName hg hg' same
    rw [Text.sameName_comm] at own
    exact consistent.tables.eq_of_sameName ht hu (Text.sameName_trans own own')
  · have within : ∀ q, q <+: ms → (after options q).Touched := fun q hq =>
      touched_after options fun name table sql there => hm name table sql (hq.subset there)
    refine (within p ((List.prefix_append p [m]).trans hp)).not_moves (within _ hp) ?_
    rw [options_after, options_after]

/-- Tables whose column of last changes comes back in another spelling, goes with its table, and is
refused. -/
def reworked : List Mutation :=
  [.addTable "user" [.ofParts "Changed" "" "", .ofParts "city" "TEXT" "", .ofParts "changed" "" ""]
      [],
    .addTable "note" [.ofParts "CHANGED" "TEXT" ""] [.index "note_changed" ["changed"] false],
    .setColumns "USER" [.ofParts "cHanged" "" "", .ofParts "no name" "" ""],
    .addTable "user_changed" [.ofParts "changed" "" ""] [],
    .addTable "NOTE" [.ofParts "line" "TEXT" ""] []]

theorem triggersOf_after_reworked :
    (∀ name table sql, .addTrigger name table sql ∉ reworked) ∧
      ((after .standard reworked).tables.map fun t =>
          (t.name, ((after .standard reworked).triggersOf t).map TriggerDefinition.name)) =
        [("user", ["user_changed_touch"]), ("NOTE", []),
          ("user_changed", ["user_changed_changed_touch"])] ∧
      ∀ t ∈ (after .standard reworked).tables, (after .standard reworked).triggersOf t =
        ((t.columns.find? fun c => isNamed (some "changed") c.name).map
          ((after .standard reworked).touch t)).toList := by
  have hm : ∀ name table sql, .addTrigger name table sql ∉ reworked := by simp [reworked]
  exact ⟨hm, by decide +kernel, (triggersOf_after .standard reworked hm).1⟩

end Registry

end FilterStore
