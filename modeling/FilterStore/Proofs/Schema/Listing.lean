import FilterStore.Proofs.Schema.Consistent

/-!
# Tables and their triggers

A trigger is noted twice: in the list of triggers, where it names its table, and by that table,
which lists it by name.  No trigger is ever missing from the list of its table.  The other direction
can be lost.  A trigger that is registered again, but for another table, *moves* there, and the
table it leaves goes on listing it.  The trigger that keeps a column of last changes up to date can
do that as well, because its name may have been taken.

Nothing else brings the two sides apart: they agree after every mutation exactly if no mutation
moves a trigger (`listsTriggers_iff_not_moves`).  The reason is that a mutation concerns one table
(`Reshapes`).  For that table the two sides agree whatever happens.  All other tables stay as they
are, and lose a trigger only to the table in question.
-/

namespace FilterStore

open Text (lower sameName)

namespace TableDefinition

variable {t : TableDefinition} {name n : String}

theorem mem_listing (h : n ∈ (t.listing name).triggers) : n ∈ t.triggers ∨ n = name := by
  simp only [listing] at h
  split at h
  · exact .inl h
  · exact (List.mem_append.mp h).imp_right List.mem_singleton.mp

theorem mem_listing_of_mem (h : n ∈ t.triggers) : n ∈ (t.listing name).triggers := by
  simp only [listing]
  split
  · exact h
  · exact List.mem_append_left _ h

theorem exists_mem_listing (t : TableDefinition) (name : String) :
    ∃ n ∈ (t.listing name).triggers, sameName n name = true := by
  simp only [listing]
  split
  · rename_i h
    exact List.any_eq_true.mp h
  · exact ⟨name, List.mem_append_right _ List.mem_cons_self, Text.sameName_refl name⟩

theorem distinct_listing (h : Named.Distinct id t.triggers) :
    Named.Distinct id (t.listing name).triggers := by
  simp only [listing]
  split
  · exact h
  · rename_i fresh
    rw [Named.Distinct, List.map_append, List.nodup_append]
    refine ⟨h, List.nodup_singleton _, fun a ha b hb same => fresh ?_⟩
    obtain ⟨n, hn, rfl⟩ := List.mem_map.mp ha
    obtain rfl := List.mem_singleton.mp hb
    exact List.any_eq_true.mpr ⟨n, hn, Text.sameName_iff.mpr same⟩

end TableDefinition

namespace Registry

/-! ## The two sides -/

/-- A table lists every trigger that is registered for it, once. -/
structure ListsAll (r : Registry) (t : TableDefinition) : Prop where
  once : Named.Distinct id t.triggers
  all : ∀ g ∈ r.triggers, sameName g.table t.name = true →
    ∃ n ∈ t.triggers, sameName n g.name = true

/-- A table lists nothing but triggers that are registered for it. -/
def ListsOnly (r : Registry) (t : TableDefinition) : Prop :=
  ∀ n ∈ t.triggers, ∃ g ∈ r.triggers, sameName g.table t.name = true ∧ sameName g.name n = true

/-- Up to case and order, every table lists the triggers that are registered for it, and no
others. -/
def ListsTriggers (r : Registry) : Prop :=
  ∀ t ∈ r.tables, (t.triggers.map lower).Perm
    ((r.triggers.filter fun g => sameName g.table t.name).map fun g => lower g.name)

/-- A trigger is registered for another table than before. -/
def Moves (r r' : Registry) : Prop :=
  ∃ g ∈ r.triggers, ∃ g' ∈ r'.triggers,
    sameName g.name g'.name = true ∧ sameName g.table g'.table = false

section Agreement

variable {r r' s : Registry} {t u v : TableDefinition} {name : String}

theorem Tidy.listsTriggers_iff (hr : r.Tidy) :
    r.ListsTriggers ↔ ∀ t ∈ r.tables, r.ListsAll t ∧ r.ListsOnly t := by
  have own : ∀ {t : TableDefinition} {n : String},
      n ∈ (r.triggers.filter fun g => sameName g.table t.name).map (fun g => lower g.name) ↔
        ∃ g ∈ r.triggers, sameName g.table t.name = true ∧ lower g.name = n := by
    intro t n
    simp only [List.mem_map, List.mem_filter, and_assoc]
  refine forall₂_congr fun t ht => ⟨fun agree => ⟨⟨?_, fun g hg same => ?_⟩, fun n hn => ?_⟩,
    fun ⟨all, only⟩ => ?_⟩
  · exact agree.nodup_iff.mpr (hr.triggers.filter _)
  · obtain ⟨n, hn, lowered⟩ := List.mem_map.mp (agree.mem_iff.mpr (own.mpr ⟨g, hg, same, rfl⟩))
    exact ⟨n, hn, Text.sameName_iff.mpr lowered⟩
  · obtain ⟨g, hg, same, lowered⟩ := own.mp (agree.mem_iff.mp (List.mem_map_of_mem hn))
    exact ⟨g, hg, same, Text.sameName_iff.mpr lowered⟩
  · refine (List.perm_ext_iff_of_nodup all.once (hr.triggers.filter _)).mpr fun n => ?_
    rw [own, List.mem_map]
    constructor
    · rintro ⟨n, hn, rfl⟩
      obtain ⟨g, hg, same, named⟩ := only n hn
      exact ⟨g, hg, same, Text.sameName_iff.mp named⟩
    · rintro ⟨g, hg, same, rfl⟩
      obtain ⟨n, hn, named⟩ := all.all g hg same
      exact ⟨n, hn, Text.sameName_iff.mp named⟩

/-! ## What a mutation does to triggers -/

/-- Between two registries only the table of a name is changed, and triggers are registered for it
alone. -/
structure Reshapes (name : String) (r r' : Registry) : Prop where
  tables : ∀ t, sameName t.name name = false → (t ∈ r'.tables ↔ t ∈ r.tables)
  old : ∀ g ∈ r'.triggers, g ∈ r.triggers ∨ sameName g.table name = true
  /-- A trigger of another table is still there, or the table has taken it. -/
  kept : ∀ g ∈ r.triggers, sameName g.table name = false → g ∈ r'.triggers ∨
    ∃ g' ∈ r'.triggers, sameName g.name g'.name = true ∧ sameName g'.table name = true
  all : (∀ t ∈ r.tables, sameName t.name name = true → r.ListsAll t) →
    ∀ t ∈ r'.tables, sameName t.name name = true → r'.ListsAll t
  only : (∀ t ∈ r.tables, sameName t.name name = true → r.ListsOnly t) →
    ∀ t ∈ r'.tables, sameName t.name name = true → r'.ListsOnly t

/-- The triggers of a table are still there, perhaps with another statement. -/
def KeepsOwn (name : String) (r r' : Registry) : Prop :=
  ∀ g ∈ r.triggers, sameName g.table name = true →
    ∃ g' ∈ r'.triggers, sameName g.name g'.name = true ∧ sameName g'.table name = true

theorem KeepsOwn.trans (h : KeepsOwn name r s) (h' : KeepsOwn name s r') :
    KeepsOwn name r r' := by
  intro g hg own
  obtain ⟨g₁, hg₁, same₁, own₁⟩ := h g hg own
  obtain ⟨g₂, hg₂, same₂, own₂⟩ := h' g₁ hg₁ own₁
  exact ⟨g₂, hg₂, Text.sameName_trans same₁ same₂, own₂⟩

theorem Reshapes.trans (h : Reshapes name r s) (h' : Reshapes name s r')
    (own : KeepsOwn name s r') : Reshapes name r r' where
  tables t other := (h'.tables t other).trans (h.tables t other)
  old g hg := (h'.old g hg).elim (h.old g) .inr
  kept g hg other := by
    rcases h.kept g hg other with stays | ⟨g', hg', same, taken⟩
    · exact h'.kept g stays other
    · obtain ⟨g'', hg'', same', taken'⟩ := own g' hg' taken
      exact .inr ⟨g'', hg'', Text.sameName_trans same same', taken'⟩
  all hr := h'.all (h.all hr)
  only hr := h'.only (h.only hr)

theorem reshapes_of_same (tables : r'.tables = r.tables) (triggers : r'.triggers = r.triggers) :
    Reshapes name r r' ∧ KeepsOwn name r r' := by
  have all : ∀ t, r'.ListsAll t ↔ r.ListsAll t := fun t =>
    ⟨fun h => ⟨h.once, triggers ▸ h.all⟩, fun h => ⟨h.once, triggers.symm ▸ h.all⟩⟩
  refine ⟨⟨?_, ?_, ?_, ?_, ?_⟩, ?_⟩
  · exact fun t _ => by rw [tables]
  · exact fun g hg => .inl (triggers ▸ hg)
  · exact fun g hg _ => .inl (triggers ▸ hg)
  · rw [tables]
    exact fun hr t ht same => (all t).mpr (hr t ht same)
  · simp only [ListsOnly, tables, triggers]
    exact id
  · simp only [KeepsOwn, triggers]
    exact fun g hg own => ⟨g, hg, Text.sameName_refl _, own⟩

/-- A table that is put is the only one of its name. -/
theorem Tidy.mem_putTable_iff (hr : r.Tidy) (same : sameName u.name name = true) :
    (sameName v.name name = true → (v ∈ (r.putTable u).tables ↔ v = u)) ∧
      (sameName v.name name = false → (v ∈ (r.putTable u).tables ↔ v ∈ r.tables)) := by
  have put : v ∈ (r.putTable u).tables ↔ v = u ∨ v ∈ r.tables ∧ sameName v.name u.name = false :=
    hr.tables.mem_put_iff
  have alike : sameName v.name u.name = sameName v.name name := by
    rw [Text.sameName_iff] at same
    rw [sameName, sameName, same]
  rw [put, alike]
  refine ⟨fun own => ?_, fun other => ?_⟩
  · simp [own]
  · have differ : v ≠ u := by
      rintro rfl
      rw [same] at other
      cases other
    simp [other, differ]

theorem reshapes_putTable (hr : r.Tidy) (ht : t ∈ r.tables) (same : sameName t.name name = true)
    (named : u.name = t.name) (triggers : u.triggers = t.triggers) :
    Reshapes name r (r.putTable u) ∧ KeepsOwn name r (r.putTable u) := by
  have mem := fun v => hr.mem_putTable_iff (v := v) (u := u) (named ▸ same)
  refine ⟨⟨?_, ?_, ?_, ?_, ?_⟩, ?_⟩
  · exact fun v other => (mem v).2 other
  · exact fun g hg => .inl hg
  · exact fun g hg _ => .inl hg
  · intro before v hv own
    obtain rfl := ((mem v).1 own).mp hv
    obtain ⟨once, all⟩ := before t ht same
    exact ⟨triggers ▸ once, fun g hg at_table => triggers ▸ all g hg (named ▸ at_table)⟩
  · intro before v hv own
    obtain rfl := ((mem v).1 own).mp hv
    have only := before t ht same
    unfold ListsOnly
    rw [triggers, named]
    exact only
  · exact fun g hg own => ⟨g, hg, Text.sameName_refl _, own⟩

theorem reshapes_putTrigger (hr : r.Tidy) (ht : t ∈ r.tables) (same : sameName t.name name = true)
    {g : TriggerDefinition} (own : g.table = t.name) :
    let r' := { r.putTable (t.listing g.name) with
      triggers := Named.put TriggerDefinition.name g r.triggers }
    Reshapes name r r' ∧ KeepsOwn name r r' := by
  have mem := fun v => hr.mem_putTable_iff (v := v) (u := t.listing g.name) same
  have at_name : sameName g.table name = true := own ▸ same
  have stays : ∀ g' ∈ r.triggers, g' ∈ Named.put TriggerDefinition.name g r.triggers ∨
      sameName g'.name g.name = true := fun g' hg' =>
    (Named.mem_put_or_sameName hg').imp_right fun h => by rw [Text.sameName_comm, h]
  refine ⟨⟨?_, ?_, ?_, ?_, ?_⟩, ?_⟩
  · exact fun v other => (mem v).2 other
  · intro g' hg'
    rcases Named.eq_or_mem_of_mem_put hg' with rfl | old
    · exact .inr at_name
    · exact .inl old
  · exact fun g' hg' _ => (stays g' hg').imp_right fun taken =>
      ⟨g, Named.mem_put_self, taken, at_name⟩
  · intro before v hv at_table
    obtain rfl := ((mem v).1 at_table).mp hv
    obtain ⟨once, all⟩ := before t ht same
    refine ⟨TableDefinition.distinct_listing once, fun g' hg' own' => ?_⟩
    rcases Named.eq_or_mem_of_mem_put hg' with rfl | old
    · exact t.exists_mem_listing g'.name
    · obtain ⟨n, hn, named⟩ := all g' old own'
      exact ⟨n, TableDefinition.mem_listing_of_mem hn, named⟩
  · intro before v hv at_table
    obtain rfl := ((mem v).1 at_table).mp hv
    intro n hn
    have new : sameName g.table t.name = true := by rw [own, Text.sameName_refl]
    rcases TableDefinition.mem_listing hn with old | rfl
    · obtain ⟨g', hg', own', named⟩ := before t ht same n old
      rcases stays g' hg' with kept | replaced
      · exact ⟨g', kept, own', named⟩
      · exact ⟨g, Named.mem_put_self, new,
          Text.sameName_trans (by rw [Text.sameName_comm, replaced]) named⟩
    · exact ⟨g, Named.mem_put_self, new, Text.sameName_refl _⟩
  · intro g' hg' own'
    rcases stays g' hg' with kept | replaced
    · exact ⟨g', kept, Text.sameName_refl _, own'⟩
    · exact ⟨g, Named.mem_put_self, replaced, at_name⟩

theorem Edit.reshapes (hr : r.Tidy) (ht : t ∈ r.tables) (same : sameName t.name name = true)
    (h : Edit r t r') : Reshapes name r r' ∧ KeepsOwn name r r' := by
  cases h with
  | column c _ => exact reshapes_putTable hr ht same rfl rfl
  | constraints texts => exact reshapes_putTable hr ht same rfl rfl
  | trigger g _ own => exact reshapes_putTrigger hr ht same own
  | index i _ _ _ _ => exact reshapes_of_same rfl rfl

theorem Edits.reshapes (hr : r.Tidy) (h : Edits name r r') :
    Reshapes name r r' ∧ KeepsOwn name r r' := by
  induction h with
  | refl => exact reshapes_of_same rfl rfl
  | tail before step ih =>
    obtain ⟨t, ht, same, edit⟩ := step
    obtain ⟨reshapes, own⟩ := edit.reshapes (Edits.tidy_keeps hr before).1 ht same
    exact ⟨ih.1.trans reshapes own, ih.2.trans own⟩

/-- A table that is cleared lists nothing, and has no triggers. -/
theorem reshapes_cleared (hr : r.Tidy) (name : String) : Reshapes name r (r.cleared name) := by
  have mem := fun v =>
    hr.mem_putTable_iff (v := v) (u := ⟨name, [], [], []⟩) (Text.sameName_refl name)
  constructor
  case tables => exact fun v other => (mem v).2 other
  case old => exact fun g hg => .inl (List.mem_filter.mp hg).1
  case kept => exact fun g hg other => .inl (List.mem_filter.mpr ⟨hg, by rw [other]; rfl⟩)
  case all =>
    intro _ v hv own
    obtain rfl := ((mem v).1 own).mp hv
    refine ⟨List.nodup_nil, fun g hg at_name => ?_⟩
    have dropped := (List.mem_filter.mp hg).2
    rw [at_name] at dropped
    cases dropped
  case only =>
    intro _ v hv own
    obtain rfl := ((mem v).1 own).mp hv
    exact fun n hn => absurd hn List.not_mem_nil

theorem Change.exists_reshapes (hr : r.Tidy) (h : Change r r') : ∃ name, Reshapes name r r' := by
  cases h with
  | edits name h => exact ⟨name, (h.reshapes hr).1⟩
  | @table s r' t name identifier columns ht same constraints =>
    have clear := hr.cleared identifier
    have tidy := (columns.tidy_keeps clear).1
    obtain ⟨filled, own⟩ := columns.reshapes clear
    have dropped : Reshapes name s (s.pruned t) ∧ KeepsOwn name s (s.pruned t) :=
      reshapes_of_same rfl rfl
    obtain ⟨constrained, own'⟩ := constraints.reshapes (tidy.pruned t)
    have emptied := reshapes_cleared hr name
    exact ⟨name, ((emptied.trans filled own).trans dropped.1 dropped.2).trans constrained own'⟩
  | lock =>
    have locked : Reshapes "" r r.lock ∧ KeepsOwn "" r r.lock := reshapes_of_same rfl rfl
    exact ⟨"", locked.1⟩

theorem exists_reshapes_of_perform (hr : r.Tidy) (m : Mutation) :
    ∃ name, Reshapes name r (r.perform m) := by
  rcases change_of_perform hr.named m with unchanged | change
  · rw [unchanged]
    exact ⟨"", (reshapes_of_same rfl rfl).1⟩
  · exact change.exists_reshapes hr

/-! ## Where the two sides agree -/

/-- No trigger is missing from the list of its table afterwards. -/
theorem Reshapes.listsAll (h : Reshapes name r r') (hr : ∀ t ∈ r.tables, r.ListsAll t) :
    ∀ t ∈ r'.tables, r'.ListsAll t := by
  intro t ht
  cases at_name : sameName t.name name with
  | true => exact h.all (fun u hu _ => hr u hu) t ht at_name
  | false =>
    obtain ⟨once, all⟩ := hr t ((h.tables t at_name).mp ht)
    refine ⟨once, fun g hg own => ?_⟩
    rcases h.old g hg with old | taken
    · exact all g old own
    · rw [Text.sameName_comm] at own
      rw [Text.sameName_trans own taken] at at_name
      cases at_name

/-- **Where the two sides agree, they agree after a mutation exactly if it moves no trigger.** -/
theorem Reshapes.listsTriggers_iff (h : Reshapes name r r') (hr : r.Tidy) (hr' : r'.Tidy)
    (agree : r.ListsTriggers) : r'.ListsTriggers ↔ ¬ Moves r r' := by
  rw [hr.listsTriggers_iff] at agree
  rw [hr'.listsTriggers_iff]
  constructor
  · rintro agree' ⟨g, hg, g', hg', named, apart⟩
    have new : g ∉ r'.triggers := by
      intro stays
      obtain rfl := hr'.triggers.eq_of_sameName stays hg' named
      rw [Text.sameName_refl] at apart
      cases apart
    have old : g' ∉ r.triggers := by
      intro before
      obtain rfl := hr.triggers.eq_of_sameName hg before named
      exact new hg'
    -- The trigger was taken by the table in question, so it is another table that has lost it.
    have taken : sameName g'.table name = true := (h.old g' hg').resolve_left old
    obtain ⟨t, ht, own⟩ := hr.trigger_table g hg
    have other : sameName t.name name = false := by
      rw [← Bool.not_eq_true] at apart ⊢
      intro at_name
      rw [Text.sameName_comm] at own taken
      exact apart (Text.sameName_trans own (Text.sameName_trans at_name taken))
    obtain ⟨n, hn, listed⟩ := (agree t ht).1.all g hg (by rw [Text.sameName_comm, own])
    obtain ⟨g'', hg'', own', named'⟩ := (agree' t ((h.tables t other).mpr ht)).2 n hn
    have same : g'' = g' := hr'.triggers.eq_of_sameName hg'' hg'
      (Text.sameName_trans (Text.sameName_trans named' listed) named)
    rw [same, Text.sameName_comm] at own'
    rw [Text.sameName_trans own' taken] at other
    cases other
  · intro stays t ht
    refine ⟨h.listsAll (fun u hu => (agree u hu).1) t ht, ?_⟩
    cases at_name : sameName t.name name with
    | true => exact h.only (fun u hu _ => (agree u hu).2) t ht at_name
    | false =>
      intro n hn
      obtain ⟨g, hg, own, named⟩ := (agree t ((h.tables t at_name).mp ht)).2 n hn
      have other : sameName g.table name = false := by
        rw [← Bool.not_eq_true] at at_name ⊢
        rw [Text.sameName_comm] at own
        exact fun clash => at_name (Text.sameName_trans own clash)
      rcases h.kept g hg other with kept | ⟨g', hg', same, taken⟩
      · exact ⟨g, kept, own, named⟩
      · refine absurd ⟨g, hg, g', hg', same, ?_⟩ stays
        rw [← Bool.not_eq_true] at other ⊢
        exact fun clash => other (Text.sameName_trans clash taken)

end Agreement

/-! ## Histories -/

theorem listsTriggers_empty (options : RegistryOptions) : (empty options).ListsTriggers :=
  fun _ ht => absurd ht List.not_mem_nil

/-- **Tables list their triggers after every mutation exactly if no mutation moves a trigger.**  In
any case no trigger is missing from the list of its table. -/
theorem listsTriggers_iff_not_moves (options : RegistryOptions) (ms : List Mutation) :
    (∀ t ∈ (after options ms).tables, (after options ms).ListsAll t) ∧
      ((∀ p, p <+: ms → (after options p).ListsTriggers) ↔
        ∀ p m, p ++ [m] <+: ms → ¬ Moves (after options p) (after options (p ++ [m]))) := by
  have consistent : ∀ ms, (after options ms).Consistent :=
    after_induct (consistent_empty options) fun _ m hr _ => hr.perform m
  have step : ∀ p m, ∃ name, Reshapes name (after options p) (after options (p ++ [m])) := by
    intro p m
    rw [after_append]
    exact exists_reshapes_of_perform (consistent p).toTidy m
  constructor
  · refine after_induct (P := fun r => ∀ t ∈ r.tables, r.ListsAll t)
      (fun _ ht => absurd ht List.not_mem_nil) (fun r m hr all => ?_) ms
    obtain ⟨name, reshapes⟩ := exists_reshapes_of_perform hr.toTidy m
    exact reshapes.listsAll all
  · induction ms using List.reverseRecOn with
    | nil =>
      refine ⟨fun _ p m h => absurd (List.prefix_nil.mp h) (by simp), fun _ p h => ?_⟩
      rw [List.prefix_nil.mp h]
      exact listsTriggers_empty options
    | append_singleton ms m ih =>
      obtain ⟨name, reshapes⟩ := step ms m
      have last := reshapes.listsTriggers_iff (consistent ms).toTidy
        (consistent (ms ++ [m])).toTidy
      constructor
      · intro agree p m' h
        rcases List.prefix_concat_iff.mp h with whole | before
        · obtain ⟨rfl, same⟩ := List.append_inj' whole rfl
          cases same
          have there : (after options p).ListsTriggers := agree p (List.prefix_append ..)
          exact (last there).mp (agree (p ++ [m]) (List.prefix_refl _))
        · exact ih.mp (fun q hq => agree q (hq.trans (List.prefix_append ..))) p m' before
      · intro stays p h
        have before : ∀ q, q <+: ms → (after options q).ListsTriggers :=
          ih.mpr fun q m' hq => stays q m' (hq.trans (List.prefix_append ..))
        rcases List.prefix_concat_iff.mp h with rfl | within
        · exact (last (before ms (List.prefix_refl ms))).mpr (stays ms m (List.prefix_refl _))
        · exact before p within

/-- Two tables, and a trigger that is registered for one and then for the other. -/
def contested : List Mutation :=
  [.addTable "first" [.ofParts "line" "TEXT" ""] [],
    .addTable "second" [.ofParts "line" "TEXT" ""] [],
    .addTrigger "seen" "first" "CREATE TRIGGER seen AFTER INSERT ON first BEGIN SELECT 1; END",
    .addTrigger "seen" "second" "CREATE TRIGGER seen AFTER INSERT ON second BEGIN SELECT 1; END"]

/-- The table that a trigger has left goes on listing it. -/
theorem not_listsTriggers_contested :
    ((after .standard contested).tables.map fun t => (t.name, t.triggers)) =
        [("first", ["seen"]), ("second", ["seen"])] ∧
      ((after .standard contested).triggers.map fun g => (g.name, g.table)) =
        [("seen", "second")] ∧
      ¬ (after .standard contested).ListsTriggers := by
  unfold ListsTriggers
  decide +kernel

end Registry

end FilterStore
