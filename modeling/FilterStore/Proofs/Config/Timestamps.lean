import FilterStore.Config.Basic
import FilterStore.Proofs.Schema.Given

/-!
# Configured timestamps

A configuration names the columns of creation and of last changes.  A table that is given a column of
such a name should have it as a *stamp*: it holds dates, takes the configured type where it is
declared without one, defaults to the current time where it has no constraints, and the column of
last changes has its touch trigger (`Config.TakesEffect`).  Blanks around names mean nothing.

A configuration is checked before it is used, but the check looks at names without the blanks around
them, and a registry compares them as they are configured.  The names of columns that are registered
have no blanks.  So a name that is configured with blanks around it passes the check and is never
met, and the settings of a valid configuration take effect if, and only if, there are no such blanks
(`Config.takesEffect_iff_trimmed`).
-/

namespace FilterStore

open Text (lower sameName trim)

namespace Config

/-- Whether a configured name means a name, blanks around both aside. -/
def isMeant (configured : Option String) (name : String) : Bool :=
  configured.any fun n => sameName (trim n) (trim name)

def isCreated (c : Config) (name : String) : Bool := isMeant c.timestamps.createColumn name

def isChanged (c : Config) (name : String) : Bool := isMeant c.timestamps.changeColumn name

def isStamp (c : Config) (name : String) : Bool := c.isCreated name || c.isChanged name

/-- A column as the stamp that the configuration wants it to be. -/
def stamped (c : Config) (d : ColumnDefinition) : ColumnDefinition :=
  let timestampType := trim c.timestamps.timestampType
  { name := d.name
    declaredType := if d.declaredType.isEmpty then timestampType else d.declaredType
    constraints :=
      if d.constraints.isEmpty then
        "NOT NULL DEFAULT (" ++ (Affinity.ofType timestampType).nowExpression ++ ")"
      else d.constraints
    temporal := true }

open Registry (after)

/-- The timestamp settings take effect in every registry with the options of the configuration. -/
structure TakesEffect (c : Config) : Prop where
  /-- A stamp that a table is given is there, with its touch trigger if it is the one of changes. -/
  given {ms : List Mutation} {m : Mutation} {r : Registry} {table : String} {d : ColumnDefinition}
    (h : (after c.registryOptions ms).mutate m = .ok r) (gives : m.Gives table d)
    (stamp : c.isStamp d.name = true) :
    ∃ t ∈ r.tables, sameName t.name table = true ∧ c.stamped d ∈ t.columns ∧
      (c.isChanged d.name = true → r.touch t (c.stamped d) ∈ r.triggers)
  /-- Whatever happens afterwards, columns of these names are stamps. -/
  stays (ms : List Mutation) {t : TableDefinition} (ht : t ∈ (after c.registryOptions ms).tables)
    {e : ColumnDefinition} (he : e ∈ t.columns) (stamp : c.isStamp e.name = true) :
    ∃ d, e = c.stamped d
  /-- They keep their touch triggers where nobody registers triggers by hand. -/
  touched {ms : List Mutation} (hm : ∀ name table sql, .addTrigger name table sql ∉ ms)
    {t : TableDefinition} (ht : t ∈ (after c.registryOptions ms).tables) {e : ColumnDefinition}
    (he : e ∈ t.columns) (changed : c.isChanged e.name = true) :
    (after c.registryOptions ms).touch t e ∈ (after c.registryOptions ms).triggers
  apart (name : String) : ¬(c.isCreated name = true ∧ c.isChanged name = true)

/-- No timestamp column is configured with blanks around its name. -/
def Trimmed (c : Config) : Prop :=
  ∀ n, c.timestamps.createColumn = some n ∨ c.timestamps.changeColumn = some n → trim n = n

/-! ## What a valid configuration is -/

section Valid

variable {c : Config} {n : String}

theorem checkName_eq_ok_iff {field value : String} :
    checkName field value = .ok () ↔ isIdentifier (trim value) = true := by
  unfold checkName
  split <;> simp_all

theorem isIdentifier_of_checkOptionalName {field : String} {configured : Option String}
    (h : checkOptionalName field configured = .ok ()) (hn : configured = some n) :
    isIdentifier (trim n) = true := by
  rw [hn] at h
  exact checkName_eq_ok_iff.mp h

/-- What is checked of the timestamp columns. -/
theorem of_validate_ok (valid : c.validate = .ok ()) :
    (∀ n, c.timestamps.createColumn = some n ∨ c.timestamps.changeColumn = some n →
      isIdentifier (trim n) = true) ∧
    ∀ n m, c.timestamps.createColumn = some n → c.timestamps.changeColumn = some m →
      sameName n m = false := by
  simp only [validate, bind_eq_ok_iff] at valid
  obtain ⟨_, -, _, create, _, change, valid⟩ := valid
  refine ⟨fun n hn => hn.elim (isIdentifier_of_checkOptionalName create)
    (isIdentifier_of_checkOptionalName change), fun n m hn hm => ?_⟩
  split at valid
  · cases valid
  · rw [hn, hm] at valid
    cases same : sameName n m with
    | false => rfl
    | true => simp [same] at valid

end Valid

/-! ## Names and their blanks -/

section Names

variable {configured : Option String} {name n : String}

theorem sameName_trim (h : sameName n name = true) : sameName (trim n) (trim name) = true := by
  rw [Text.sameName_iff] at *
  rw [← Text.trim_lower, ← Text.trim_lower, h]

/-- A name that is compared as it is configured is meant. -/
theorem isMeant_of_isNamed (h : Registry.isNamed configured name = true) :
    isMeant configured name = true := by
  cases configured with
  | none => cases h
  | some n => exact sameName_trim h

/-- Without blanks around it the configured name is met where it is meant. -/
theorem isMeant_eq_isNamed (trimmed : ∀ n, configured = some n → trim n = n) (name : String) :
    isMeant configured name = Registry.isNamed configured (trim name) := by
  cases configured with
  | none => rfl
  | some n => simp only [isMeant, Option.any_some, Registry.isNamed, trimmed n rfl]

/-- A name that is the same with the blanks around it has none. -/
theorem trim_eq_of_sameName (identifier : isIdentifier (trim n) = true)
    (h : sameName n (trim n) = true) : trim n = n :=
  Text.trim_of_isNameChar (isNameChar_of_sameName identifier h)

/-- The two timestamp columns of a valid configuration are two. -/
theorem isNamed_apart {c : Config} (valid : c.validate = .ok ()) (name : String) :
    ¬(Registry.isNamed c.timestamps.createColumn name = true ∧
      Registry.isNamed c.timestamps.changeColumn name = true) := by
  rintro ⟨create, change⟩
  unfold Registry.isNamed at create change
  split at create
  · rename_i n hn
    split at change
    · rename_i m hm
      have same := Text.sameName_trans create (Text.sameName_comm m name ▸ change)
      rw [(of_validate_ok valid).2 n m hn hm] at same
      cases same
    · cases change
  · cases create

end Names

/-! ## Settings that take effect -/

section Effect

variable {c : Config} {r : Registry} {d : ColumnDefinition} {name : String}

theorem isCreated_eq (trimmed : c.Trimmed) (name : String) :
    c.isCreated name = Registry.isNamed c.timestamps.createColumn (trim name) :=
  isMeant_eq_isNamed (fun n hn => trimmed n (.inl hn)) name

theorem isChanged_eq (trimmed : c.Trimmed) (name : String) :
    c.isChanged name = Registry.isNamed c.timestamps.changeColumn (trim name) :=
  isMeant_eq_isNamed (fun n hn => trimmed n (.inr hn)) name

theorem isChanged_eq_isChangeColumn (trimmed : c.Trimmed) (options : r.options = c.registryOptions)
    (identifier : isIdentifier name = true) : c.isChanged name = r.isChangeColumn name := by
  rw [isChanged_eq trimmed, trim_of_isIdentifier identifier, Registry.isChangeColumn, options,
    registryOptions]

theorem isStamp_eq_isTimestamp (trimmed : c.Trimmed) (options : r.options = c.registryOptions)
    (identifier : isIdentifier name = true) : c.isStamp name = r.isTimestamp name := by
  rw [isStamp, Registry.isTimestamp, isChanged_eq_isChangeColumn trimmed options identifier,
    isCreated_eq trimmed, trim_of_isIdentifier identifier, Registry.isCreateColumn, options,
    registryOptions]

/-- The options complete a timestamp column to the stamp that the configuration wants. -/
theorem complete_eq_stamped (options : r.options = c.registryOptions)
    (stamp : r.isTimestamp d.name = true) : r.complete d = c.stamped d := by
  unfold Registry.complete stamped Registry.timestampDefault Registry.timestampAffinity
  rw [stamp, options]
  rfl

theorem consistent_after_registryOptions (c : Config) (ms : List Mutation) :
    (after c.registryOptions ms).Consistent :=
  Registry.after_induct (Registry.consistent_empty _) (fun _ m hr _ => hr.perform m) ms

/-- Without blanks around the configured names the settings take effect. -/
theorem takesEffect_of_trimmed (valid : c.validate = .ok ()) (trimmed : c.Trimmed) :
    c.TakesEffect where
  given {ms m r table d} h gives stamp := by
    have result : r = after c.registryOptions (ms ++ [m]) := by
      rw [Registry.after_append, Registry.perform, h]
    have before := Registry.options_after c.registryOptions ms
    have options : r.options = c.registryOptions := result ▸ Registry.options_after _ _
    obtain ⟨t, ht, same, hd, touched⟩ :=
      Registry.has_of_gives (consistent_after_registryOptions c ms).toTidy h gives
    have tidy : r.Tidy := result ▸ (consistent_after_registryOptions c _).toTidy
    have completed := (tidy.named t ht).columns _ hd
    have identifier : isIdentifier d.name = true := completed
    rw [isStamp_eq_isTimestamp trimmed before identifier] at stamp
    rw [complete_eq_stamped before stamp] at hd touched
    refine ⟨t, ht, same, hd, fun changed => touched ?_⟩
    rw [isChanged_eq_isChangeColumn trimmed options identifier] at changed
    exact changed
  stays ms t ht e he stamp := by
    have options := Registry.options_after c.registryOptions ms
    obtain ⟨d, identifier, rfl⟩ := Registry.completed_after c.registryOptions ms t ht e he
    have configured : c.isStamp d.name = true := stamp
    rw [isStamp_eq_isTimestamp trimmed options identifier] at configured
    exact ⟨d, complete_eq_stamped options configured⟩
  touched {ms} hm t ht e he changed := by
    have options := Registry.options_after c.registryOptions ms
    have named := (consistent_after_registryOptions c ms).toTidy.named t ht
    rw [isChanged_eq_isChangeColumn trimmed options (named.columns e he)] at changed
    exact (Registry.touched_after c.registryOptions hm _).mpr ⟨t, ht, e, he, changed, rfl⟩
  apart name := by
    rw [isCreated_eq trimmed, isChanged_eq trimmed]
    exact isNamed_apart valid (trim name)

/-- A registry with one table of some columns. -/
def noted (options : RegistryOptions) (columns : List ColumnDefinition) : Registry :=
  { Registry.empty options with tables := [⟨"note", columns, [], []⟩] }

theorem requireTable_noted (options : RegistryOptions) (columns : List ColumnDefinition) :
    (noted options columns).requireTable "note" = .ok ⟨"note", columns, [], []⟩ := by
  have found : Named.find? TableDefinition.name "note" (noted options columns).tables =
      some ⟨"note", columns, [], []⟩ :=
    List.find?_cons_of_pos (Text.sameName_refl "note")
  rw [Registry.requireTable, found]

theorem putTable_noted (options : RegistryOptions) (before columns : List ColumnDefinition) :
    (noted options before).putTable ⟨"note", columns, [], []⟩ = noted options columns := by
  rw [Registry.putTable, noted, Named.put, if_pos (Text.sameName_refl "note"), noted]

/-- A column that means nothing to the options is put as it is. -/
theorem putColumn_noted {options : RegistryOptions} (identifier : isIdentifier name = true)
    (plain : (Registry.empty options).isTimestamp name = false) :
    (noted options []).putColumn "note" ⟨name, "", "", false⟩ =
      .ok (noted options [⟨name, "", "", false⟩]) := by
  have unstamped : (noted options []).isTimestamp name = false := plain
  have unchanged : (noted options [⟨name, "", "", false⟩]).isChangeColumn name = false :=
    (Bool.or_eq_false_iff.mp plain).2
  have undated : ColumnDefinition.isDateType "" = false := by decide +kernel
  have same : (noted options []).complete ⟨name, "", "", false⟩ = ⟨name, "", "", false⟩ := by
    simp only [Registry.complete, unstamped, Bool.false_and, Bool.false_or, undated,
      Bool.false_eq_true, if_false]
  simp only [Registry.putColumn, checkIdentifier, if_pos identifier, ok_bind, requireTable_noted,
    same, Named.put, putTable_noted, unchanged, Bool.false_eq_true, if_false]

theorem mutate_noted {options : RegistryOptions} (identifier : isIdentifier name = true)
    (plain : (Registry.empty options).isTimestamp name = false) :
    (Registry.empty options).mutate (.addTable "note" [⟨name, "", "", false⟩] []) =
      .ok (noted options [⟨name, "", "", false⟩]) := by
  have note : isIdentifier "note" = true := by decide +kernel
  have bare : trim "note" = "note" := trim_of_isIdentifier note
  have filled : (noted options []).putColumns "note" [⟨name, "", "", false⟩] =
      .ok (noted options [⟨name, "", "", false⟩]) := by
    rw [Registry.putColumns, List.foldlM_cons, putColumn_noted identifier plain]
    rfl
  calc (Registry.empty options).addTable "note" [⟨name, "", "", false⟩] []
      = (do
        let r ← (noted options []).putColumns "note" [⟨name, "", "", false⟩]
        let t ← r.requireTable "note"
        { r with indexes := r.indexes.filter (Registry.keepsIndex t) }.replaceConstraints
          "note" []) := by
        rw [Registry.addTable, bare, checkIdentifier, if_pos note]
        rfl
    _ = (noted options [⟨name, "", "", false⟩]).replaceConstraints "note" [] := by
        rw [filled, ok_bind, requireTable_noted]
        rfl
    _ = .ok (noted options [⟨name, "", "", false⟩]) := by
        rw [Registry.replaceConstraints, requireTable_noted, ok_bind]
        exact congrArg Except.ok (putTable_noted options _ _)

/-- A column of a configured name that is valid is only a stamp if the name has no blanks around
it. -/
theorem trimmed_of_takesEffect (valid : c.validate = .ok ()) (h : c.TakesEffect) : c.Trimmed := by
  intro n hn
  have identifier := (of_validate_ok valid).1 n hn
  have meant : ∀ {configured}, configured = some n → isMeant configured (trim n) = true := by
    rintro _ rfl
    rw [isMeant, Option.any_some, Text.trim_trim]
    exact Text.sameName_refl (trim n)
  by_contra blank
  -- The name without blanks is not met, and if the other name means it as well, it is two.
  have unmet : ∀ {configured}, configured = some n →
      Registry.isNamed configured (trim n) = false := by
    rintro _ rfl
    exact Bool.eq_false_iff.mpr fun same => blank (trim_eq_of_sameName identifier same)
  have plain : (Registry.empty c.registryOptions).isTimestamp (trim n) = false := by
    refine Bool.or_eq_false_iff.mpr ?_
    rcases hn with hn | hn
    · exact ⟨unmet hn, Bool.eq_false_iff.mpr fun other =>
        h.apart (trim n) ⟨meant hn, isMeant_of_isNamed other⟩⟩
    · exact ⟨Bool.eq_false_iff.mpr fun other =>
        h.apart (trim n) ⟨isMeant_of_isNamed other, meant hn⟩, unmet hn⟩
  have stamp : c.isStamp (trim n) = true :=
    Bool.or_eq_true_iff.mpr (hn.imp meant meant)
  have gives : Mutation.Gives (.addTable "note" ([] ++ ⟨trim n, "", "", false⟩ :: []) [])
      (trim "note") ⟨trim n, "", "", false⟩ := .addTable nofun
  have performed : (after c.registryOptions []).mutate
      (.addTable "note" ([] ++ ⟨trim n, "", "", false⟩ :: []) []) = _ := mutate_noted identifier plain
  obtain ⟨t, ht, -, stamped, -⟩ := h.given performed gives stamp
  obtain rfl := List.mem_singleton.mp ht
  have temporal := congrArg ColumnDefinition.temporal (List.mem_singleton.mp stamped)
  exact Bool.noConfusion temporal

end Effect

/-- **The timestamp settings of a valid configuration take effect exactly if its timestamp columns
are configured without blanks around their names.**  In any case no name is met as both. -/
theorem takesEffect_iff_trimmed (c : Config) (valid : c.validate = .ok ()) :
    (c.TakesEffect ↔ c.Trimmed) ∧
      ∀ ms name, ¬((after c.registryOptions ms).isCreateColumn name = true ∧
        (after c.registryOptions ms).isChangeColumn name = true) := by
  refine ⟨⟨trimmed_of_takesEffect valid, takesEffect_of_trimmed valid⟩, fun ms name => ?_⟩
  rw [Registry.isCreateColumn, Registry.isChangeColumn, Registry.options_after]
  exact isNamed_apart valid name

/-- Timestamps with names of their own, kept as text. -/
def dated : Config :=
  { standard with timestamps := ⟨some "Born", some "edited", " TEXT "⟩ }

theorem takesEffect_dated :
    dated.validate = .ok () ∧ dated.TakesEffect ∧
      (after dated.registryOptions
        [.addTable "note" [.ofParts " born" "" "", .ofParts "EDITED" "" "NOT NULL"] []]).tables =
        [⟨"note", [⟨"born", "TEXT", "NOT NULL DEFAULT (datetime('now'))", true⟩,
          ⟨"EDITED", "TEXT", "NOT NULL", true⟩], [], ["note_EDITED_touch"]⟩] := by
  have valid : dated.validate = .ok () := by decide +kernel
  have trimmed : dated.Trimmed := by
    rintro n (⟨⟨⟩⟩ | ⟨⟨⟩⟩) <;> decide +kernel
  exact ⟨valid, (takesEffect_iff_trimmed dated valid).1.mpr trimmed, by decide +kernel⟩

/-- The standard names, one of them with blanks around it. -/
def padded : Config :=
  { standard with timestamps := { TimestampConfig.standard with createColumn := some " created " } }

/-- **A valid configuration whose column of creation is never met.** -/
theorem not_takesEffect_padded : padded.validate = .ok () ∧ ¬padded.TakesEffect := by
  have valid : padded.validate = .ok () := by decide +kernel
  refine ⟨valid, fun effect => ?_⟩
  have bare := trimmed_of_takesEffect valid effect " created " (.inl rfl)
  exact absurd bare (by decide +kernel)

end Config

end FilterStore
