import FilterStore.Proofs.Schema.Outline
import FilterStore.Proofs.Schema.Setup

/-!
# Columns that are set

Setting columns of a registered table puts them into its list of columns one after the other.  A
name may come more than once among them, in any spelling, and the table may have it already.  Where
a column stands in the end is settled by the first time its name appears, and what it is by the
last time.  So the list can be written down without the steps that lead to it (`Named.merged`): the
old columns in their places, each as it has been given last if it has been given at all, and behind
them the new names in the order of their first appearance.

That putting things one after the other comes to this is a fact about lists of named things
(`Named.Distinct.foldl_put`).  The induction is from the end of what is given: the thing that comes
last takes the place of the one of its name wherever that stands, or the last place if there is none
(`Named.Distinct.put_merged`).

The rest of the registry stays as it is (`Registry.Filled`), but for one thing.  A column of last
changes brings its touch trigger, which takes the place of any trigger of that name --- and the name
is all that is looked at, so this may be a trigger that somebody has registered for another table.
-/

namespace FilterStore

open Text (lower sameName trim)

/-! ## Lists that are merged -/

namespace Named

variable {α : Type} {nameOf : α → String} {x y : α} {old given xs : List α} {name n : String}

/-- The last thing of a name. -/
def last? (nameOf : α → String) (xs : List α) (name : String) : Option α :=
  find? nameOf name xs.reverse

/-- The names that a list brings to an old one, in the order in which they appear first. -/
def newNames (nameOf : α → String) (old given : List α) : List String :=
  (names nameOf given).eraseDups.filter fun n => n ∉ names nameOf old

/-- A list into which things are put: each old thing gives its place to the last one of its name,
and the last ones of new names come behind. -/
def merged (nameOf : α → String) (old given : List α) : List α :=
  old.map (fun x => (last? nameOf given (nameOf x)).getD x) ++
    (newNames nameOf old given).filterMap (last? nameOf given)

theorem mem_names : n ∈ names nameOf xs ↔ ∃ x ∈ xs, lower (nameOf x) = n :=
  List.mem_map

theorem last?_concat : last? nameOf (xs ++ [x]) name =
    if sameName (nameOf x) name then some x else last? nameOf xs name := by
  rw [last?, List.reverse_append, List.reverse_singleton, List.singleton_append, find?,
    List.find?_cons]
  cases sameName (nameOf x) name <;> rfl

theorem sameName_of_last? (h : last? nameOf xs name = some x) : sameName (nameOf x) name = true :=
  sameName_of_find? h

theorem isSome_last? (h : lower name ∈ names nameOf xs) : (last? nameOf xs name).isSome := by
  obtain ⟨x, hx, same⟩ := mem_names.mp h
  exact List.find?_isSome.mpr ⟨x, List.mem_reverse.mpr hx, Text.sameName_iff.mpr same⟩

theorem names_concat : names nameOf (xs ++ [x]) = names nameOf xs ++ [lower (nameOf x)] :=
  List.map_append

/-- A name that is given last is new if neither the old things nor those given before have it. -/
theorem newNames_concat : newNames nameOf old (given ++ [x]) = newNames nameOf old given ++
    if lower (nameOf x) ∈ names nameOf old ∨ lower (nameOf x) ∈ names nameOf given then []
    else [lower (nameOf x)] := by
  rw [newNames, names_concat, List.eraseDups_append, List.filter_append, ← newNames]
  congr 1
  by_cases before : lower (nameOf x) ∈ names nameOf given
  · simp [List.removeAll, before]
  · have alone : [lower (nameOf x)].eraseDups = [lower (nameOf x)] := by
      rw [List.eraseDups_cons, List.filter_nil, List.eraseDups_nil]
    by_cases there : lower (nameOf x) ∈ names nameOf old
    · simp [List.removeAll, before, there, alone]
    · simp [List.removeAll, before, there, alone]

theorem mem_newNames :
    n ∈ newNames nameOf old given ↔ n ∈ names nameOf given ∧ n ∉ names nameOf old := by
  rw [newNames, List.mem_filter, List.mem_eraseDups, decide_eq_true_eq]

/-- A new name is the name of the last thing that has it. -/
theorem exists_last?_of_mem_newNames (h : n ∈ newNames nameOf old given) :
    ∃ x, last? nameOf given n = some x ∧ lower (nameOf x) = n := by
  obtain ⟨y, hy, rfl⟩ := mem_names.mp (mem_newNames.mp h).1
  have there : lower (lower (nameOf y)) ∈ names nameOf given := by
    rw [Text.lower_lower]
    exact mem_names.mpr ⟨y, hy, rfl⟩
  obtain ⟨x, found⟩ := Option.isSome_iff_exists.mp (isSome_last? there)
  refine ⟨x, found, ?_⟩
  rw [Text.sameName_iff.mp (sameName_of_last? found), Text.lower_lower]

/-- Putting a thing into a list gives it the place of the one of its name, or the last place. -/
theorem Distinct.put_eq (h : Distinct nameOf xs) : Named.put nameOf x xs =
    xs.map (fun y => if sameName (nameOf y) (nameOf x) then x else y) ++
      if lower (nameOf x) ∈ names nameOf xs then [] else [x] := by
  induction xs with
  | nil => rfl
  | cons y ys ih =>
    obtain ⟨first, rest⟩ := List.nodup_cons.mp h
    have whole : names nameOf (y :: ys) = lower (nameOf y) :: names nameOf ys := rfl
    rw [Named.put, List.map_cons, whole]
    by_cases same : sameName (nameOf y) (nameOf x) = true
    · have named := Text.sameName_iff.mp same
      have others : ∀ z ∈ ys, ¬sameName (nameOf z) (nameOf x) = true := fun z hz clash =>
        first (mem_names.mpr ⟨z, hz, (Text.sameName_iff.mp clash).trans named.symm⟩)
      have kept : ys.map (fun z => if sameName (nameOf z) (nameOf x) then x else z) = ys :=
        (List.map_congr_left fun z hz => if_neg (others z hz)).trans (List.map_id' ys)
      rw [if_pos same, if_pos same, kept, if_pos (named ▸ List.mem_cons_self), List.append_nil]
    · have other : lower (nameOf x) ≠ lower (nameOf y) := fun clash =>
        same (Text.sameName_iff.mpr clash.symm)
      rw [if_neg same, if_neg same, ih rest, List.cons_append]
      simp only [List.mem_cons, other, false_or]

/-- What a thing of the old list has given its place to has its name. -/
theorem lower_getD_last? :
    lower (nameOf ((last? nameOf given (nameOf y)).getD y)) = lower (nameOf y) := by
  cases found : last? nameOf given (nameOf y) with
  | none => rfl
  | some z => exact Text.sameName_iff.mp (sameName_of_last? found)

/-- The names of the old list, followed by the new ones. -/
theorem names_merged :
    names nameOf (merged nameOf old given) = names nameOf old ++ newNames nameOf old given := by
  have replaced : names nameOf (old.map fun x => (last? nameOf given (nameOf x)).getD x) =
      names nameOf old := by
    rw [names, names, List.map_map]
    exact List.map_congr_left fun y _ => lower_getD_last?
  have added : ∀ ns : List String,
      (∀ n ∈ ns, ∃ x, last? nameOf given n = some x ∧ lower (nameOf x) = n) →
        names nameOf (ns.filterMap (last? nameOf given)) = ns := by
    intro ns
    induction ns with
    | nil => exact fun _ => rfl
    | cons n ns ih =>
      intro h
      obtain ⟨⟨x, found, named⟩, rest⟩ := List.forall_mem_cons.mp h
      rw [List.filterMap_cons_some found, names, List.map_cons, named, ← names, ih rest]
  rw [merged, names, List.map_append, ← names, ← names, replaced,
    added _ fun n hn => exists_last?_of_mem_newNames hn]

/-- Where a thing is put into what has been merged, it counts as given last. -/
theorem Distinct.put_merged (h : Distinct nameOf (merged nameOf old given)) :
    Named.put nameOf x (merged nameOf old given) = merged nameOf old (given ++ [x]) := by
  have places : (old.map fun y => (last? nameOf given (nameOf y)).getD y).map
      (fun y => if sameName (nameOf y) (nameOf x) then x else y) =
        old.map fun y => (last? nameOf (given ++ [x]) (nameOf y)).getD y := by
    rw [List.map_map]
    refine List.map_congr_left fun y _ => ?_
    have alike : sameName (nameOf ((last? nameOf given (nameOf y)).getD y)) (nameOf x) =
        sameName (nameOf x) (nameOf y) := by
      rw [Bool.eq_iff_iff, Text.sameName_iff, Text.sameName_iff, lower_getD_last?]
      exact eq_comm
    rw [Function.comp_apply, alike, last?_concat]
    cases sameName (nameOf x) (nameOf y) <;> rfl
  have behind : ((newNames nameOf old given).filterMap (last? nameOf given)).map
      (fun y => if sameName (nameOf y) (nameOf x) then x else y) =
        (newNames nameOf old given).filterMap (last? nameOf (given ++ [x])) := by
    rw [List.map_filterMap]
    refine List.filterMap_congr fun n hn => ?_
    obtain ⟨y, found, named⟩ := exists_last?_of_mem_newNames hn
    have alike : sameName (nameOf y) (nameOf x) = sameName (nameOf x) n := by
      rw [Bool.eq_iff_iff, Text.sameName_iff, Text.sameName_iff, ← named, Text.lower_lower]
      exact eq_comm
    rw [found, Option.map_some, alike, last?_concat, found]
    cases sameName (nameOf x) n <;> rfl
  have there : lower (nameOf x) ∈ names nameOf old ++ newNames nameOf old given ↔
      lower (nameOf x) ∈ names nameOf old ∨ lower (nameOf x) ∈ names nameOf given := by
    rw [List.mem_append, mem_newNames]
    tauto
  have itself : last? nameOf (given ++ [x]) (lower (nameOf x)) = some x := by
    rw [last?_concat, if_pos (Text.sameName_iff.mpr (Text.lower_lower _).symm)]
  have last : (if lower (nameOf x) ∈ names nameOf (merged nameOf old given) then [] else [x]) =
      (if lower (nameOf x) ∈ names nameOf old ∨ lower (nameOf x) ∈ names nameOf given then []
        else [lower (nameOf x)]).filterMap (last? nameOf (given ++ [x])) := by
    rw [names_merged]
    simp only [there]
    split
    · rfl
    · rw [List.filterMap_cons_some itself, List.filterMap_nil]
  rw [h.put_eq, last, merged, List.map_append, places, behind, merged, newNames_concat,
    List.filterMap_append, List.append_assoc]

/-- **Putting things into a list, one after the other.** -/
theorem Distinct.foldl_put (h : Distinct nameOf old) (given : List α) :
    given.foldl (fun xs x => Named.put nameOf x xs) old = merged nameOf old given := by
  induction given using List.reverseRecOn with
  | nil =>
    have kept : merged nameOf old [] = old.map id ++ [] := rfl
    rw [kept, List.map_id, List.append_nil, List.foldl_nil]
  | append_singleton given x ih =>
    have distinct : Distinct nameOf (merged nameOf old given) :=
      ih ▸ given.foldlRecOn _ h fun _ hxs _ _ => hxs.put
    rw [List.foldl_append, List.foldl_cons, List.foldl_nil, ih, distinct.put_merged]

/-- What is given in two parts is merged one after the other. -/
theorem Distinct.merged_merged (h : Distinct nameOf old) (more : List α) :
    merged nameOf (merged nameOf old given) more = merged nameOf old (given ++ more) := by
  have distinct : Distinct nameOf (merged nameOf old given) :=
    h.foldl_put given ▸ given.foldlRecOn _ h fun _ hxs _ _ => hxs.put
  rw [← distinct.foldl_put, ← h.foldl_put, ← h.foldl_put, List.foldl_append]

/-- What is left out by its name is left out wherever it is put. -/
theorem filter_put {p : α → Bool}
    (out : ∀ y, sameName (nameOf y) (nameOf x) = true → p y = false) (xs : List α) :
    (put nameOf x xs).filter p = xs.filter p := by
  have itself : p x = false := out x (Text.sameName_refl _)
  induction xs with
  | nil => rw [put, List.filter_cons, itself, if_neg Bool.false_ne_true]
  | cons y ys ih =>
    rw [put]
    split
    · rename_i same
      rw [List.filter_cons, itself, List.filter_cons, out y same, if_neg Bool.false_ne_true,
        if_neg Bool.false_ne_true]
    · rw [List.filter_cons, List.filter_cons, ih]

end Named

namespace Registry

/-! ## What columns make of a registry -/

/-- Whether a name is that of the touch trigger of a table, in some spelling. -/
def isTouchName (r : Registry) (t : TableDefinition) (name : String) : Bool :=
  isNamed (r.options.changeColumn.map (touchName t.name)) name

/-- A table with a column put into it. -/
def withColumn (r : Registry) (t : TableDefinition) (c : ColumnDefinition) : TableDefinition :=
  { t with columns := Named.put ColumnDefinition.name (r.complete c) t.columns }

/-- What a registry is when columns have been given to one of its tables. -/
structure Filled (r r' : Registry) (t u : TableDefinition) (given : List ColumnDefinition) :
    Prop where
  /-- The other tables stay as they are, and the one in question stays where it is. -/
  tables : r'.tables = r.tables.map fun v => if sameName v.name t.name then u else v
  name : u.name = t.name
  columns : u.columns = Named.merged ColumnDefinition.name t.columns (given.map r.complete)
  constraints : u.constraints = t.constraints
  /-- The triggers that the table lists stay, its touch trigger aside. -/
  listed : u.triggers.filter (fun n => !r.isTouchName t n) =
    t.triggers.filter fun n => !r.isTouchName t n
  /-- So do all triggers that are registered. -/
  triggers : r'.triggers.filter (fun g => !r.isTouchName t g.name) =
    r.triggers.filter fun g => !r.isTouchName t g.name
  indexes : r'.indexes = r.indexes
  options : r'.options = r.options
  locked : r'.locked = r.locked

section Columns

variable {r s r' : Registry} {t u v : TableDefinition} {c : ColumnDefinition}
  {given more : List ColumnDefinition} {name table : String}

theorem isTouchName_congr (options : s.options = r.options) (same : v.name = t.name) :
    s.isTouchName v = r.isTouchName t := by
  unfold isTouchName
  rw [options, same]

/-- The touch trigger is named after the column as it is spelled. -/
theorem isTouchName_of_sameName (changes : r.isChangeColumn c.name = true)
    (same : sameName name (touchName t.name c.name) = true) : r.isTouchName t name = true := by
  unfold isTouchName
  unfold isChangeColumn at changes
  cases configured : r.options.changeColumn with
  | none =>
    rw [configured] at changes
    cases changes
  | some column =>
    rw [configured] at changes
    have spelled : lower column = lower c.name := Text.sameName_iff.mp changes
    rw [Option.map_some]
    refine Text.sameName_iff.mpr ?_
    rw [Text.sameName_iff.mp same]
    simp only [touchName, Text.lower_append, spelled]

/-- What putting a column into a table makes of the registry. -/
theorem putColumn_eq (hr : r.Tidy) (unlocked : r.locked = false)
    (found : r.requireTable table = .ok t) (identifier : isIdentifier c.name = true) :
    r.putColumn table c = .ok (if r.isChangeColumn c.name then
      { r.putTable ((r.withColumn t c).listing (touchName t.name c.name)) with
        triggers := Named.put TriggerDefinition.name (r.touch t (r.complete c)) r.triggers }
      else r.putTable (r.withColumn t c)) := by
  have ht := mem_tables_of_requireTable found
  have named := (hr.named t ht).name
  have filled : (r.putTable (r.withColumn t c)).Tidy :=
    (Edit.column (r.complete c) identifier).tidy hr ht
  have there : r.withColumn t c ∈ (r.putTable (r.withColumn t c)).tables := Named.mem_put_self
  have touch : isIdentifier (touchName t.name c.name) = true :=
    isIdentifier_touchName named identifier
  rw [putColumn, checkIdentifier, if_pos identifier, ok_bind, found, ok_bind]
  by_cases changes : r.isChangeColumn c.name = true
  · have again : (r.putTable (r.withColumn t c)).isChangeColumn (r.complete c).name = true :=
      changes
    have still : (r.putTable (r.withColumn t c)).locked = false := unlocked
    have found' : (r.putTable (r.withColumn t c)).requireTable (trim t.name) =
        .ok (r.withColumn t c) := by
      rw [trim_of_isIdentifier named]
      exact requireTable_eq_ok filled there (Text.sameName_refl t.name)
    have touch' : isIdentifier (trim (touchName t.name c.name)) = true := by
      rwa [trim_of_isIdentifier touch]
    obtain ⟨s, added⟩ := exists_addTrigger still touch' found'
      (touchSql t.name c.name r.timestampAffinity.nowExpression)
    rw [if_pos changes]
    refine (if_pos again).trans (added.trans (congrArg Except.ok ?_))
    rw [of_addTrigger_ok filled there touch added]
    have once : (r.putTable (r.withColumn t c)).putTable
        ((r.withColumn t c).listing (touchName t.name c.name)) =
          r.putTable ((r.withColumn t c).listing (touchName t.name c.name)) := putTable_putTable rfl
    rw [once]
    rfl
  · have again : ¬(r.putTable (r.withColumn t c)).isChangeColumn (r.complete c).name = true :=
      changes
    rw [if_neg changes]
    exact if_neg again

/-- A table that is put into the registry stands where the one of its name stood. -/
theorem Tidy.tables_putTable (hr : r.Tidy) (ht : t ∈ r.tables) (name : u.name = t.name) :
    (r.putTable u).tables = r.tables.map fun v => if sameName v.name t.name then u else v := by
  have there : lower u.name ∈ Named.names TableDefinition.name r.tables :=
    Named.mem_names.mpr ⟨t, ht, congrArg lower name.symm⟩
  rw [Registry.putTable, hr.tables.put_eq, if_pos there, List.append_nil, name]

/-- The column that is given is the only one of its name. -/
theorem columns_withColumn (hr : r.Tidy) (ht : t ∈ r.tables) (c : ColumnDefinition) :
    (r.withColumn t c).columns =
      Named.merged ColumnDefinition.name t.columns ([c].map r.complete) :=
  (hr.columns t ht).foldl_put [r.complete c]

/-- Listing the touch trigger leaves the other triggers of a table as they are. -/
theorem filter_listing (h : r.isTouchName t name = true) :
    (u.listing name).triggers.filter (fun n => !r.isTouchName t n) =
      u.triggers.filter fun n => !r.isTouchName t n := by
  rw [TableDefinition.listing]
  split
  · rfl
  · rw [List.filter_append, List.filter_singleton, h]
    exact List.append_nil _

/-- **One column.**  It can be put into the table, and this is all that happens. -/
theorem filled_putColumn (hr : r.Tidy) (unlocked : r.locked = false)
    (found : r.requireTable table = .ok t) (identifier : isIdentifier c.name = true) :
    ∃ s v, r.putColumn table c = .ok s ∧ Filled r s t v [c] := by
  have ht := mem_tables_of_requireTable found
  refine ⟨_, if r.isChangeColumn c.name then
      (r.withColumn t c).listing (touchName t.name c.name) else r.withColumn t c,
    putColumn_eq hr unlocked found identifier, ?_⟩
  by_cases changes : r.isChangeColumn c.name = true
  · have touch : r.isTouchName t (touchName t.name c.name) = true :=
      isTouchName_of_sameName changes (Text.sameName_refl _)
    rw [if_pos changes, if_pos changes]
    exact
      { tables := hr.tables_putTable ht rfl
        name := rfl
        columns := columns_withColumn hr ht c
        constraints := rfl
        listed := filter_listing touch
        triggers := Named.filter_put (fun g same => by
          rw [isTouchName_of_sameName changes same]
          rfl) r.triggers
        indexes := rfl
        options := rfl
        locked := rfl }
  · rw [if_neg changes, if_neg changes]
    exact
      { tables := hr.tables_putTable ht rfl
        name := rfl
        columns := columns_withColumn hr ht c
        constraints := rfl
        listed := rfl
        triggers := rfl
        indexes := rfl
        options := rfl
        locked := rfl }

/-! ## Many columns -/

theorem filled_nil (hr : r.Tidy) (ht : t ∈ r.tables) : Filled r r t t [] where
  tables := by
    have kept : ∀ v ∈ r.tables, (if sameName v.name t.name then t else v) = v := fun v hv => by
      split
      · rename_i same
        exact (hr.tables.eq_of_sameName hv ht same).symm
      · rfl
    rw [List.map_congr_left kept, List.map_id']
  name := rfl
  columns := (hr.columns t ht).foldl_put []
  constraints := rfl
  listed := rfl
  triggers := rfl
  indexes := rfl
  options := rfl
  locked := rfl

/-- What is given in two parts fills the table twice. -/
theorem Filled.trans (hr : r.Tidy) (ht : t ∈ r.tables) (h : Filled r s t v given)
    (h' : Filled s r' v u more) : Filled r r' t u (given ++ more) where
  tables := by
    rw [h'.tables, h.tables, List.map_map]
    refine List.map_congr_left fun z _ => ?_
    rw [Function.comp_apply, h.name]
    by_cases same : sameName z.name t.name = true
    · rw [if_pos same, if_pos same, if_pos (h.name ▸ Text.sameName_refl v.name)]
    · rw [if_neg same, if_neg same]
  name := h'.name.trans h.name
  columns := by
    have completed : more.map s.complete = more.map r.complete :=
      List.map_congr_left fun c _ => complete_congr h.options c
    rw [h'.columns, h.columns, completed, (hr.columns t ht).merged_merged, List.map_append]
  constraints := h'.constraints.trans h.constraints
  listed := by
    have listed := h'.listed
    rw [isTouchName_congr h.options h.name] at listed
    exact listed.trans h.listed
  triggers := by
    have triggers := h'.triggers
    rw [isTouchName_congr h.options h.name] at triggers
    exact triggers.trans h.triggers
  indexes := h'.indexes.trans h.indexes
  options := h'.options.trans h.options
  locked := h'.locked.trans h.locked

/-- The table that has been filled is found under the same names. -/
theorem Filled.requireTable (h : Filled r r' t u given) (tidy : r'.Tidy)
    (found : r.requireTable table = .ok t) : r'.requireTable table = .ok u := by
  obtain ⟨ht, same⟩ := of_requireTable_ok found
  have there : u ∈ r'.tables := by
    rw [h.tables]
    exact List.mem_map.mpr ⟨t, ht, if_pos (Text.sameName_refl t.name)⟩
  exact requireTable_eq_ok tidy there (h.name ▸ same)

/-- Columns of proper names can be put into a table that is there. -/
theorem exists_filled (hr : r.Tidy) (unlocked : r.locked = false)
    (found : r.requireTable table = .ok t) (identifiers : ∀ c ∈ given, isIdentifier c.name = true) :
    ∃ r' u, r.putColumns table given = .ok r' ∧ r'.Tidy ∧ Filled r r' t u given := by
  induction given generalizing r t with
  | nil => exact ⟨r, t, rfl, hr, filled_nil hr (mem_tables_of_requireTable found)⟩
  | cons c given ih =>
    obtain ⟨identifier, rest⟩ := List.forall_mem_cons.mp identifiers
    obtain ⟨s, v, put, first⟩ := filled_putColumn hr unlocked found identifier
    have tidy : s.Tidy := ((edits_of_putColumn hr.named put).tidy_keeps hr).1
    obtain ⟨r', u, done, tidy', behind⟩ :=
      ih tidy (first.locked.trans unlocked) (first.requireTable tidy found) rest
    refine ⟨r', u, ?_, tidy', first.trans hr (mem_tables_of_requireTable found) behind⟩
    rw [putColumns, List.foldlM_cons, put, ok_bind]
    exact done

/-! ## Setting columns -/

/-- A column holds dates if its name or its type says so. -/
theorem Completed.temporal (h : r.Completed) (ht : t ∈ r.tables) (hc : c ∈ t.columns) :
    c.temporal = (r.isTimestamp c.name || ColumnDefinition.isDateType c.declaredType) := by
  obtain ⟨d, -, rfl⟩ := h t ht c hc
  rfl

theorem Reachable.completed (hr : r.Reachable) : r.Completed := by
  induction hr with
  | empty options => exact fun t ht => absurd ht List.not_mem_nil
  | mutate m before h ih => exact ih.mutate before.consistent.toTidy h

/-- **Columns of proper names can be set in every unlocked registry that has the table.**  The old
columns keep their places and the new ones come behind them in the order of first appearance, each
as it was given last and as the options complete it; a column holds dates exactly if it is a
timestamp or its type speaks of dates; other tables, indexes, and triggers with another name than
that of the touch trigger are as they were. -/
theorem exists_setColumns (hr : r.Reachable) (unlocked : r.locked = false)
    (ht : r.table? table = some t) (identifiers : ∀ c ∈ given, isIdentifier c.name = true) :
    ∃ r' u, r.setColumns table given = .ok r' ∧ r'.table? table = some u ∧
      Filled r r' t u given ∧
      ∀ v ∈ r'.tables, ∀ c ∈ v.columns,
        c.temporal = (r.isTimestamp c.name || ColumnDefinition.isDateType c.declaredType) := by
  have tidy := hr.consistent.toTidy
  have found : r.requireTable (trim table) = .ok t := by
    rw [table?] at ht
    rw [Registry.requireTable, ht]
  obtain ⟨r', u, put, tidy', filled⟩ := exists_filled tidy unlocked found identifiers
  have set : r.setColumns table given = .ok r' := by
    rw [setColumns, found, ok_bind, ensureUnlocked, unlocked, if_neg Bool.false_ne_true, ok_bind,
      put]
  have reached : r'.Reachable := hr.mutate (.setColumns table given) set
  refine ⟨r', u, set, ?_, filled, fun v hv c hc => ?_⟩
  · obtain ⟨mem, same⟩ := of_requireTable_ok (filled.requireTable tidy' found)
    exact tidy'.tables.find?_of_sameName mem same
  · have flagged := reached.completed.temporal hv hc
    unfold isTimestamp isCreateColumn isChangeColumn at flagged ⊢
    rwa [filled.options] at flagged

end Columns

/-- Columns for the users, two of them given twice in different spellings. -/
def regiven : List ColumnDefinition :=
  [.ofParts "CITY" "DATE" "", .ofParts "Changed" "" "", .ofParts "born" "date" "",
    .ofParts "changed" "TEXT" "", .ofParts "City" "TEXT" "NOT NULL"]

theorem exists_setColumns_regiven :
    ofUsers.Reachable ∧ ofUsers.locked = false ∧ ofUsers.table? " USER" = some users ∧
      (∀ c ∈ regiven, isIdentifier c.name = true) ∧
      ∃ r' u, ofUsers.setColumns " USER" regiven = .ok r' ∧ r'.table? " USER" = some u ∧
        r'.tables = [u] ∧
        u.columns =
          [⟨"age", "INTEGER", "", false⟩, ⟨"City", "TEXT", "NOT NULL", false⟩,
            ⟨"changed", "TEXT", ofUsers.timestampDefault, true⟩, ⟨"born", "date", "", true⟩] := by
  have named : ∀ c ∈ regiven, isIdentifier c.name = true := by decide +kernel
  have found : ofUsers.table? " USER" = some users := by decide +kernel
  obtain ⟨r', u, set, there, filled, -⟩ := exists_setColumns ofUsers_reachable rfl found named
  refine ⟨ofUsers_reachable, rfl, found, named, r', u, set, there, ?_, ?_⟩
  · rw [filled.tables]
    rfl
  · rw [filled.columns]
    decide +kernel

end Registry

end FilterStore
