import FilterStore.Proofs.Schema.Consistent

/-!
# Registering a schema again

An application registers its schema on every start, and nothing tells it whether the registry is
empty.  So the same mutations have to succeed on what they have made, and to make the same of it.

The second run does not find what the first one found.  While it goes on, tables that it has not
come to yet are there already, and so are indexes and triggers --- some of them of tables that it
has just emptied.  What holds between the two runs, step by step, is that the second one *follows*
the first (`Follows`): every table of the first is a table of the second, and whatever index or
trigger has a name that was registered in this run is there in the second exactly if it is there in
the first.  Everything else is left from before.

Nothing that a mutation looks at is left from before.  It looks up a table, which the first run has
registered, and so both find the same one; and it drops indexes and triggers by looking at each of
them and at that table alone.  This is why following is kept (`Follows.mutate`), whatever the second
run starts from.  If it starts from what the first one ended with, then in the end nothing is left
from before that is not the same anyhow.
-/

namespace FilterStore

open Text (lower sameName trim)

/-! ## One list laid over another -/

namespace Named

variable {α : Type} {nameOf : α → String} {x y : α} {old xs ys : List α}

/-- A list laid over an old one: under the names that are settled it holds what `xs` holds, and all
else that it holds is old. -/
def Overlays (nameOf : α → String) (old xs ys : List α) : Prop :=
  ∃ settled : String → Prop,
    (∀ x ∈ xs, settled (lower (nameOf x))) ∧
      (∀ x, settled (lower (nameOf x)) → (x ∈ ys ↔ x ∈ xs)) ∧
        ∀ y ∈ ys, settled (lower (nameOf y)) ∨ y ∈ old

theorem overlays_nil (old : List α) : Overlays nameOf old [] old :=
  ⟨fun _ => False, fun _ hx => absurd hx List.not_mem_nil, fun _ h => h.elim, fun _ hy => .inr hy⟩

/-- What is put into both lists settles its name. -/
theorem Overlays.put (h : Overlays nameOf old xs ys) (hxs : Distinct nameOf xs)
    (hys : Distinct nameOf ys) :
    Overlays nameOf old (Named.put nameOf x xs) (Named.put nameOf x ys) := by
  obtain ⟨settled, first, same, rest⟩ := h
  refine ⟨fun n => n = lower (nameOf x) ∨ settled n, ?_, ?_, ?_⟩
  · intro y hy
    rcases eq_or_mem_of_mem_put hy with rfl | there
    · exact .inl rfl
    · exact .inr (first y there)
  · intro y hy
    rw [hxs.mem_put_iff, hys.mem_put_iff]
    rcases hy with named | before
    · have taken : sameName (nameOf y) (nameOf x) = true := Text.sameName_iff.mpr named
      simp [taken]
    · rw [same y before]
  · intro y hy
    rcases hys.mem_put_iff.mp hy with rfl | ⟨there, -⟩
    · exact .inl (.inl rfl)
    · exact (rest y there).imp_left .inr

theorem Overlays.filter (h : Overlays nameOf old xs ys) (p : α → Bool) :
    Overlays nameOf old (xs.filter p) (ys.filter p) := by
  obtain ⟨settled, first, same, rest⟩ := h
  refine ⟨settled, ?_, ?_, ?_⟩
  · intro y hy
    exact first y (List.mem_filter.mp hy).1
  · intro y hy
    rw [List.mem_filter, List.mem_filter, same y hy]
  · intro y hy
    exact rest y (List.mem_filter.mp hy).1

/-- A list that is laid over itself has the same things. -/
theorem Overlays.perm (h : Overlays nameOf xs xs ys) (hxs : Distinct nameOf xs)
    (hys : Distinct nameOf ys) : ys.Perm xs := by
  obtain ⟨settled, first, same, rest⟩ := h
  rw [List.perm_ext_iff_of_nodup hys.of_map hxs.of_map]
  intro y
  constructor
  · intro hy
    rcases rest y hy with here | before
    · exact (same y here).mp hy
    · exact before
  · intro hy
    exact (same y (first y hy)).mpr hy

/-! ## The order of names -/

/-- The names of a list in order, in small letters. -/
def names (nameOf : α → String) (xs : List α) : List String := xs.map fun x => lower (nameOf x)

/-- Putting a thing into a list adds its name at the end, unless it is there. -/
theorem names_put :
    names nameOf (put nameOf x xs) =
      if lower (nameOf x) ∈ names nameOf xs then names nameOf xs
      else names nameOf xs ++ [lower (nameOf x)] := by
  induction xs with
  | nil => rfl
  | cons y ys ih =>
    rw [put]
    by_cases same : sameName (nameOf y) (nameOf x) = true
    · have named : lower (nameOf y) = lower (nameOf x) := Text.sameName_iff.mp same
      simp [same, names, named]
    · have other : lower (nameOf x) ≠ lower (nameOf y) := by
        intro clash
        exact same (Text.sameName_iff.mpr clash.symm)
      have tail : names nameOf (y :: put nameOf x ys) =
          lower (nameOf y) :: names nameOf (put nameOf x ys) := rfl
      have whole : names nameOf (y :: ys) = lower (nameOf y) :: names nameOf ys := rfl
      rw [if_neg same, tail, whole, ih]
      by_cases there : lower (nameOf x) ∈ names nameOf ys
      · simp [there]
      · simp [there, other]

/-- The names of a list, followed by those of another one that are new. -/
def Continues (old xs ys : List String) : Prop := ys = old ++ xs.filter fun n => n ∉ old

theorem Continues.add {old xs ys : List String} (h : Continues old xs ys) (n : String) :
    Continues old (if n ∈ xs then xs else xs ++ [n]) (if n ∈ ys then ys else ys ++ [n]) := by
  unfold Continues at h ⊢
  subst h
  by_cases before : n ∈ old
  · by_cases there : n ∈ xs <;> simp [before, there, List.filter_append]
  · by_cases there : n ∈ xs <;> simp [before, there, List.filter_append]

/-- Lists with the same names in the same order are equal if one is part of the other. -/
theorem eq_of_names (hnames : names nameOf xs = names nameOf ys) (hxs : Distinct nameOf xs)
    (part : ∀ x ∈ xs, x ∈ ys) : xs = ys := by
  have hys : Distinct nameOf ys := by
    have nodup : (names nameOf xs).Nodup := hxs
    rw [hnames] at nodup
    exact nodup
  refine List.ext_getElem ?_ fun i hi hi' => ?_
  · have lengths := congrArg List.length hnames
    rwa [names, names, List.length_map, List.length_map] at lengths
  · have here : lower (nameOf xs[i]) = lower (nameOf ys[i]) := by
      have at_i := List.getElem_of_eq hnames (by simpa [names] using hi)
      simpa [names] using at_i
    exact hys.eq_of_sameName (part _ (List.getElem_mem hi)) (List.getElem_mem hi')
      (Text.sameName_iff.mpr here)

end Named

namespace Registry

/-! ## The second run beside the first -/

/-- A run that starts from `base` has come to `s` where a run that starts from nothing has come to
`r`. -/
structure Follows (base r s : Registry) : Prop where
  first : r.Tidy
  second : s.Tidy
  options : r.options = base.options ∧ s.options = base.options
  unlocked : r.locked = false ∧ s.locked = false
  tables : ∀ t ∈ r.tables, t ∈ s.tables
  order : Named.Continues (Named.names TableDefinition.name base.tables)
    (Named.names TableDefinition.name r.tables) (Named.names TableDefinition.name s.tables)
  indexes : Named.Overlays IndexDefinition.name base.indexes r.indexes s.indexes
  triggers : Named.Overlays TriggerDefinition.name base.triggers r.triggers s.triggers

section Steps

variable {base r s r' : Registry} {t u : TableDefinition} {name table : String}

theorem follows_empty (hb : base.Tidy) (hl : base.locked = false) :
    Follows base (empty base.options) base where
  first := (consistent_empty base.options).toTidy
  second := hb
  options := ⟨rfl, rfl⟩
  unlocked := ⟨rfl, hl⟩
  tables _ ht := absurd ht List.not_mem_nil
  order := by simp [Named.Continues, Named.names, empty]
  indexes := Named.overlays_nil base.indexes
  triggers := Named.overlays_nil base.triggers

/-- A table that the first run finds is the one that the second run finds. -/
theorem Follows.requireTable (h : Follows base r s) (ht : r.requireTable name = .ok t) :
    s.requireTable name = .ok t := by
  obtain ⟨mem, same⟩ := of_requireTable_ok ht
  have found := h.second.tables.find?_of_sameName (h.tables t mem) same
  rw [Registry.requireTable, found]

theorem Follows.ensureUnlocked (h : Follows base r s) (table : String) :
    s.ensureUnlocked table = .ok () :=
  ensureUnlocked_eq_ok_iff.mpr h.unlocked.2

theorem Follows.putTable (h : Follows base r s) (named : u.WellNamed)
    (columns : Named.Distinct ColumnDefinition.name u.columns) :
    Follows base (r.putTable u) (s.putTable u) :=
  { h with
    first := h.first.putTable named columns
    second := h.second.putTable named columns
    tables := fun t ht => by
      rcases h.first.tables.mem_put_iff.mp ht with rfl | ⟨there, other⟩
      · exact Named.mem_put_self
      · exact Named.mem_put_of_mem (h.tables t there) other
    order := by
      have added := h.order.add (lower u.name)
      rwa [← Named.names_put, ← Named.names_put] at added }

theorem Follows.putTrigger (h : Follows base r s) (ht : t ∈ r.tables) {g : TriggerDefinition}
    (named : isIdentifier g.name = true) (own : g.table = t.name) :
    Follows base { r with triggers := Named.put TriggerDefinition.name g r.triggers }
      { s with triggers := Named.put TriggerDefinition.name g s.triggers } := by
  have at_table : sameName t.name g.table = true := by rw [own, Text.sameName_refl]
  exact
    { h with
      first := h.first.putTrigger named ⟨t, ht, at_table⟩
      second := h.second.putTrigger named ⟨t, h.tables t ht, at_table⟩
      triggers := h.triggers.put h.first.triggers h.second.triggers }

theorem Follows.putIndex (h : Follows base r s) {i : IndexDefinition}
    (named : isIdentifier i.name = true) (some : i.columns ≠ [])
    (columns : ∀ c ∈ i.columns, isIdentifier c = true) :
    Follows base { r with indexes := Named.put IndexDefinition.name i r.indexes }
      { s with indexes := Named.put IndexDefinition.name i s.indexes } :=
  { h with
    first := h.first.putIndex named some columns
    second := h.second.putIndex named some columns
    indexes := h.indexes.put h.first.indexes h.second.indexes }

theorem Follows.cleared (h : Follows base r s) (named : isIdentifier name = true) :
    Follows base (r.cleared name) (s.cleared name) := by
  have blank : TableDefinition.WellNamed ⟨name, [], [], []⟩ :=
    ⟨named, fun c hc => absurd hc List.not_mem_nil⟩
  exact
    { h.putTable blank List.nodup_nil with
      first := h.first.cleared named
      second := h.second.cleared named
      triggers := h.triggers.filter fun g => !sameName g.table name }

theorem Follows.pruned (h : Follows base r s) (t : TableDefinition) :
    Follows base (r.pruned t) (s.pruned t) :=
  { h with
    first := h.first.pruned t
    second := h.second.pruned t
    indexes := h.indexes.filter (keepsIndex t) }

/-! ## What both runs do -/

/-- What the options add to a column is the same in both runs. -/
theorem Follows.complete (h : Follows base r s) (c : ColumnDefinition) :
    s.complete c = r.complete c := by
  unfold Registry.complete isTimestamp isCreateColumn isChangeColumn timestampDefault
    timestampAffinity
  rw [h.options.1, h.options.2]

theorem Follows.isChangeColumn (h : Follows base r s) (column : String) :
    s.isChangeColumn column = r.isChangeColumn column := by
  rw [Registry.isChangeColumn, Registry.isChangeColumn, h.options.1, h.options.2]

theorem Follows.timestampAffinity (h : Follows base r s) :
    s.timestampAffinity = r.timestampAffinity := by
  rw [Registry.timestampAffinity, Registry.timestampAffinity, h.options.1, h.options.2]

theorem Follows.addTrigger (h : Follows base r s) {sql : String}
    (hr : r.addTrigger name table sql = .ok r') :
    ∃ s', s.addTrigger name table sql = .ok s' ∧ Follows base r' s' := by
  simp only [Registry.addTrigger, bind_eq_ok_iff, checkIdentifier_eq_ok_iff] at hr
  obtain ⟨_, named, t, ht, _, -, hr⟩ := hr
  cases hr
  have mem : t ∈ r.tables := mem_tables_of_requireTable ht
  have old := h.first.named t mem
  have listed := h.putTable (u := t.listing (trim name)) ⟨old.name, old.columns⟩
    (h.first.columns t mem)
  refine ⟨_, ?_, listed.putTrigger (g := ⟨trim name, t.name, trim sql⟩)
    (t := t.listing (trim name)) Named.mem_put_self named rfl⟩
  simp only [Registry.addTrigger, bind_eq_ok_iff, checkIdentifier_eq_ok_iff]
  exact ⟨(), named, t, h.requireTable ht, (), h.ensureUnlocked _, rfl⟩

theorem Follows.putColumn (h : Follows base r s) {c : ColumnDefinition}
    (hr : r.putColumn table c = .ok r') :
    ∃ s', s.putColumn table c = .ok s' ∧ Follows base r' s' := by
  simp only [Registry.putColumn, bind_eq_ok_iff, checkIdentifier_eq_ok_iff] at hr
  obtain ⟨_, named, t, ht, hr⟩ := hr
  have mem : t ∈ r.tables := mem_tables_of_requireTable ht
  have old := h.first.named t mem
  have columns : ∀ d ∈ Named.put ColumnDefinition.name (r.complete c) t.columns,
      isIdentifier d.name = true := by
    intro d hd
    rcases Named.eq_or_mem_of_mem_put hd with rfl | there
    · exact named
    · exact old.columns d there
  have put := h.putTable (u := { t with
      columns := Named.put ColumnDefinition.name (r.complete c) t.columns })
    ⟨old.name, columns⟩ (h.first.columns t mem).put
  simp only [Registry.putColumn, bind_eq_ok_iff, checkIdentifier_eq_ok_iff]
  split at hr
  · rename_i changes
    obtain ⟨s', hs, follows⟩ := put.addTrigger hr
    refine ⟨s', ⟨(), named, t, h.requireTable ht, ?_⟩, follows⟩
    rw [h.complete, put.isChangeColumn, if_pos changes, put.timestampAffinity]
    exact hs
  · rename_i quiet
    cases hr
    refine ⟨_, ⟨(), named, t, h.requireTable ht, ?_⟩, put⟩
    rw [h.complete, put.isChangeColumn, if_neg quiet]

/-- What both runs do with each thing of a list they do with the list. -/
theorem Follows.foldlM {α : Type} {f : Registry → α → Except Error Registry} {xs : List α}
    (step : ∀ x ∈ xs, ∀ r s r', Follows base r s → f r x = .ok r' →
      ∃ s', f s x = .ok s' ∧ Follows base r' s')
    (h : Follows base r s) (hr : xs.foldlM f r = .ok r') :
    ∃ s', xs.foldlM f s = .ok s' ∧ Follows base r' s' := by
  induction xs generalizing r s with
  | nil =>
    cases hr
    exact ⟨s, rfl, h⟩
  | cons x xs ih =>
    rw [List.foldlM_cons, bind_eq_ok_iff] at hr
    obtain ⟨r₁, hr₁, hr⟩ := hr
    obtain ⟨s₁, hs₁, h₁⟩ := step x List.mem_cons_self r s r₁ h hr₁
    obtain ⟨s', hs', h'⟩ := ih (fun y hy => step y (List.mem_cons_of_mem x hy)) h₁ hr
    refine ⟨s', ?_, h'⟩
    rw [List.foldlM_cons, hs₁]
    exact hs'

theorem Follows.putColumns (h : Follows base r s) {columns : List ColumnDefinition}
    (hr : r.putColumns table columns = .ok r') :
    ∃ s', s.putColumns table columns = .ok s' ∧ Follows base r' s' :=
  h.foldlM (fun _ _ _ _ _ h hr => h.putColumn hr) hr

theorem Follows.addIndex (h : Follows base r s) {columns : List String} {unique : Bool}
    (hr : r.addIndex name table columns unique = .ok r') :
    ∃ s', s.addIndex name table columns unique = .ok s' ∧ Follows base r' s' := by
  simp only [Registry.addIndex, bind_eq_ok_iff, checkIdentifier_eq_ok_iff] at hr
  obtain ⟨_, named, _, -, hr⟩ := hr
  split at hr
  · cases hr
  rename_i nonempty
  simp only [checkColumns, bind_eq_ok_iff] at hr
  obtain ⟨_, ⟨t, ht, checked⟩, u, hu, hr⟩ := hr
  rw [Text.trim_trim, hu] at ht
  cases ht
  cases hr
  have none_missing : missingColumn? t columns = none := by
    split at checked
    · cases checked
    · assumption
  have old := h.first.named t (mem_tables_of_requireTable hu)
  refine ⟨_, ?_, h.putIndex (i := ⟨trim name, t.name, _, unique⟩) named ?_ ?_⟩
  · simp only [Registry.addIndex, bind_eq_ok_iff, checkIdentifier_eq_ok_iff]
    refine ⟨(), named, (), h.ensureUnlocked _, ?_⟩
    rw [if_neg nonempty, checkColumns, Text.trim_trim, h.requireTable hu]
    simp only [bind_eq_ok_iff]
    refine ⟨(), ⟨t, rfl, ?_⟩, t, rfl, rfl⟩
    rw [none_missing]
  · simpa using nonempty
  · intro c hc
    obtain ⟨d, hd, rfl⟩ := exists_column_of_spelled none_missing hc
    exact old.columns d hd

theorem Follows.replaceConstraints (h : Follows base r s) {constraints : List TableConstraint}
    (hr : r.replaceConstraints table constraints = .ok r') :
    ∃ s', s.replaceConstraints table constraints = .ok s' ∧ Follows base r' s' := by
  simp only [Registry.replaceConstraints, bind_eq_ok_iff] at hr
  obtain ⟨t, ht, hr⟩ := hr
  have mem : t ∈ r.tables := mem_tables_of_requireTable ht
  have old := h.first.named t mem
  have texts := h.putTable (u := { t with constraints := constraintTexts constraints })
    ⟨old.name, old.columns⟩ (h.first.columns t mem)
  obtain ⟨s', hs', follows⟩ := texts.foldlM (fun c _ r s r' h hr => by
    cases c with
    | sql text =>
      cases hr
      exact ⟨s, rfl, h⟩
    | index name columns unique => exact h.addIndex hr) hr
  refine ⟨s', ?_, follows⟩
  simp only [Registry.replaceConstraints, bind_eq_ok_iff]
  exact ⟨t, h.requireTable ht, hs'⟩

theorem Follows.addTable (h : Follows base r s) {columns : List ColumnDefinition}
    {constraints : List TableConstraint} (hr : r.addTable name columns constraints = .ok r') :
    ∃ s', s.addTable name columns constraints = .ok s' ∧ Follows base r' s' := by
  simp only [Registry.addTable, bind_eq_ok_iff, checkIdentifier_eq_ok_iff] at hr
  obtain ⟨_, named, _, -, r₁, hr₁, t, ht, hr⟩ := hr
  obtain ⟨s₁, hs₁, filled⟩ := (h.cleared named).putColumns hr₁
  obtain ⟨s', hs', follows⟩ := (filled.pruned t).replaceConstraints hr
  refine ⟨s', ?_, follows⟩
  simp only [Registry.addTable, bind_eq_ok_iff, checkIdentifier_eq_ok_iff]
  exact ⟨(), named, (), h.ensureUnlocked _, s₁, hs₁, t, filled.requireTable ht, hs'⟩

/-- **What a mutation does in the first run it does in the second run.** -/
theorem Follows.mutate (h : Follows base r s) {m : Mutation} (hm : m ≠ .lock)
    (hr : r.mutate m = .ok r') : ∃ s', s.mutate m = .ok s' ∧ Follows base r' s' := by
  cases m with
  | addTable name columns constraints => exact h.addTable hr
  | setColumns table columns =>
    simp only [Registry.mutate, setColumns, bind_eq_ok_iff] at hr
    obtain ⟨t, ht, _, -, hr⟩ := hr
    obtain ⟨s', hs', follows⟩ := h.putColumns hr
    refine ⟨s', ?_, follows⟩
    simp only [Registry.mutate, setColumns, bind_eq_ok_iff]
    exact ⟨t, h.requireTable ht, (), h.ensureUnlocked _, hs'⟩
  | setConstraints table constraints =>
    simp only [Registry.mutate, setConstraints, bind_eq_ok_iff] at hr
    obtain ⟨t, ht, _, -, hr⟩ := hr
    obtain ⟨s', hs', follows⟩ := h.replaceConstraints hr
    refine ⟨s', ?_, follows⟩
    simp only [Registry.mutate, setConstraints, bind_eq_ok_iff]
    exact ⟨t, h.requireTable ht, (), h.ensureUnlocked _, hs'⟩
  | addIndex name table columns unique => exact h.addIndex hr
  | addTrigger name table sql => exact h.addTrigger hr
  | lock => exact absurd rfl hm

end Steps

/-! ## Setting up twice -/

/-- The registry after mutations that all succeed. -/
def setUp (r : Registry) (ms : List Mutation) : Except Error Registry := ms.foldlM mutate r

theorem Follows.setUp {base r s r' : Registry} (h : Follows base r s) {ms : List Mutation}
    (unlocking : .lock ∉ ms) (hr : r.setUp ms = .ok r') :
    ∃ s', s.setUp ms = .ok s' ∧ Follows base r' s' :=
  h.foldlM (fun _ hm _ _ _ h hr => h.mutate (fun lock => unlocking (lock ▸ hm)) hr) hr

/-- **What sets up a schema from nothing can be run again on what it has made, and makes the same of
it:** the same tables in the same order, and the same indexes and triggers. -/
theorem setUp_again (options : RegistryOptions) (ms : List Mutation) (unlocking : .lock ∉ ms)
    (r : Registry) (h : (empty options).setUp ms = .ok r) :
    ∃ s, r.setUp ms = .ok s ∧ s.tables = r.tables ∧ s.indexes.Perm r.indexes ∧
      s.triggers.Perm r.triggers := by
  -- A run beside itself shows what it leaves: a tidy registry that is not locked.
  have alone : Follows (empty options) (empty options) (empty options) :=
    follows_empty (consistent_empty options).toTidy rfl
  obtain ⟨_, _, made⟩ := alone.setUp unlocking h
  have start : Follows r (empty options) r := by
    have fresh := follows_empty made.first made.unlocked.1
    rwa [made.options.1] at fresh
  obtain ⟨s, hs, again⟩ := start.setUp unlocking h
  refine ⟨s, hs, ?_, ?_, ?_⟩
  · have order : Named.names TableDefinition.name r.tables =
        Named.names TableDefinition.name s.tables := by
      have continues := again.order
      simp only [Named.Continues] at continues
      rw [continues, List.filter_eq_nil_iff.mpr (by simp), List.append_nil]
    exact (Named.eq_of_names order again.first.tables again.tables).symm
  · exact again.indexes.perm again.first.indexes again.second.indexes
  · exact again.triggers.perm again.first.triggers again.second.triggers

/-- A schema in which a trigger moves to another table, and a table comes back in another spelling
and without the column that an index is on. -/
def rebuilt : List Mutation :=
  [.addTable "draft" [.ofParts "line" "TEXT" "", .ofParts "changed" "" ""]
      [.index "draft_line" ["line"] false],
    .addTable "final" [.ofParts "line" "TEXT" ""] [],
    .addTrigger "seen" "draft" "CREATE TRIGGER seen AFTER INSERT ON draft BEGIN SELECT 1; END",
    .addTrigger "seen" "final" "CREATE TRIGGER seen AFTER INSERT ON final BEGIN SELECT 1; END",
    .addTable "Draft" [.ofParts "text" "TEXT" "", .ofParts "changed" "" ""] [],
    .addIndex "final_line" "FINAL" ["Line"] true]

theorem setUp_again_rebuilt :
    .lock ∉ rebuilt ∧ ∃ r s, (empty .standard).setUp rebuilt = .ok r ∧ r.setUp rebuilt = .ok s ∧
      s.tables = r.tables ∧ s.indexes.Perm r.indexes ∧ s.triggers.Perm r.triggers := by
  have unlocking : .lock ∉ rebuilt := by simp [rebuilt]
  have succeeds : ((empty .standard).setUp rebuilt).toOption.isSome = true := by decide +kernel
  obtain ⟨r, made⟩ := Option.isSome_iff_exists.mp succeeds
  have ok := toOption_eq_some_iff.mp made
  obtain ⟨s, again, same⟩ := setUp_again .standard rebuilt unlocking r ok
  exact ⟨unlocking, r, s, ok, again, same⟩

end Registry

end FilterStore
