import FilterStore.Config.Document
import FilterStore.Proofs.Yaml.Outline

/-!
# Configurations are read back

What is written of a configuration is an outline: four entries, three of which are sections.  So a
reader meets the nodes of that outline, and every field finds its entry there.

Two kinds of fields may be absent, and they differ.  A path that is absent is left out, which is what
the standard configuration says as well.  The standard columns are there, so an absent column is
written as `null`; and since a string that would read as nothing is not written plain, `null` is no
column's name.
-/

namespace FilterStore

open Yaml (Outline Style IsWord IsWritten stringText stringStyle)

namespace Config

/-! ## The outline of a configuration -/

/-- An entry with a string. -/
def stringEntry (indent : Nat) (name s : String) (rest : Outline) : Outline :=
  .entry name.toList (stringText indent s).toList s (stringStyle s) rest

/-- An entry with a word. -/
def wordEntry (name word : String) (rest : Outline) : Outline :=
  .entry name.toList (word ++ "\n").toList word .plain rest

/-- An entry with a string or nothing. -/
def optionalEntry (name : String) : Option String → Outline → Outline
  | some s => stringEntry 4 name s
  | none => wordEntry name "null"

/-- The entry of a path, if there is one. -/
def pathEntry : Option String → Outline → Outline
  | some path, rest => stringEntry 4 "path" path rest
  | none, rest => rest

/-- An entry with a yes or no. -/
def flagEntry (name : String) (b : Bool) : Outline → Outline :=
  wordEntry name (if b then "true" else "false")

def databaseOutline (c : DatabaseConfig) : Outline :=
  stringEntry 4 "name" c.name <| pathEntry c.path <| stringEntry 4 "version" c.version <|
    stringEntry 4 "display_name" c.displayName <| wordEntry "size" (toString c.size.toNat) .nil

def timestampOutline (c : TimestampConfig) : Outline :=
  optionalEntry "create_column" c.createColumn <|
    optionalEntry "change_column" c.changeColumn <|
      stringEntry 4 "timestamp_type" c.timestampType .nil

def migrationOutline (c : MigrationConfig) : Outline :=
  flagEntry "trigger_events_on_reexecute" c.eventsOnRerun <|
    flagEntry "recall_ready_functions_on_reexecute" c.readyOnRerun .nil

/-- A configuration as an outline. -/
def outline (c : Config) : Outline :=
  .part "database".toList (databaseOutline c.database) <|
    stringEntry 2 "version_table" c.versionTable <|
      .part "timestamps".toList (timestampOutline c.timestamps) <|
        .part "migration".toList (migrationOutline c.migration) .nil

/-! ## The text of an outline -/

theorem toList_entryText (name value : String) : (entryText name value).toList =
    Yaml.spaces 2 ++ (name.toList ++ ':' :: ' ' :: value.toList) := by
  have indent : "  ".toList = Yaml.spaces 2 := rfl
  have colon : ": ".toList = [':', ' '] := rfl
  simp [entryText, indent, colon]

section Text

variable (name : String) (rest : Outline)

theorem text_wordEntry (word : String) : (wordEntry name word rest).text 2 =
    (entryText name (word ++ "\n")).toList ++ rest.text 2 := by
  simp [toList_entryText, wordEntry, Outline.text]

theorem text_stringEntry (s : String) : (stringEntry 4 name s rest).text 2 =
    (entryText name (sectionText s)).toList ++ rest.text 2 := by
  simp [toList_entryText, stringEntry, Outline.text, sectionText]

theorem text_optionalEntry (s? : Option String) : (optionalEntry name s? rest).text 2 =
    (entryText name (optionalText s?)).toList ++ rest.text 2 := by
  cases s? with
  | none => exact text_wordEntry name rest "null"
  | some s => exact text_stringEntry name rest s

theorem text_flagEntry (b : Bool) : (flagEntry name b rest).text 2 =
    (entryText name (flagText b)).toList ++ rest.text 2 := by
  rw [flagEntry, text_wordEntry]
  cases b <;> rfl

theorem text_rootEntry (s : String) : (stringEntry 2 name s rest).text 0 =
    name.toList ++ ':' :: ' ' :: ((stringText 2 s).toList ++ rest.text 0) := rfl

theorem text_part (inside : Outline) : (Outline.part name.toList inside rest).text 0 =
    name.toList ++ ':' :: '\n' :: (inside.text 2 ++ rest.text 0) := rfl

end Text

/-- What is written of a configuration is its outline. -/
theorem toList_text (c : Config) : c.text.toList = c.outline.text 0 := by
  obtain ⟨⟨name, path?, version, displayName, size⟩, versionTable, timestamps, migration⟩ := c
  have database : "database:\n".toList = "database".toList ++ [':', '\n'] := by decide
  have versions : "version_table: ".toList = "version_table".toList ++ [':', ' '] := by decide
  have stamps : "timestamps:\n".toList = "timestamps".toList ++ [':', '\n'] := by decide
  have migrations : "migration:\n".toList = "migration".toList ++ [':', '\n'] := by decide
  have empty : "".toList = [] := rfl
  have nil (column : Nat) : Outline.nil.text column = [] := rfl
  unfold Config.text outline databaseOutline timestampOutline migrationOutline
  cases path? <;>
    simp only [String.toList_append, text_part, text_rootEntry, text_stringEntry, pathEntry,
      text_optionalEntry, text_flagEntry, text_wordEntry, database, versions, stamps, migrations,
      empty, nil, List.append_assoc, List.cons_append, List.nil_append, List.append_nil]

/-! ## The outline is one -/

theorem fits_stringEntry {column : Nat} {name : String} (key : Outline.IsKey name.toList) (s : String)
    {rest : Outline} (fits : rest.Fits column) : (stringEntry (column + 2) name s rest).Fits column :=
  ⟨key, Yaml.isWritten_stringText column s, fits⟩

theorem fits_wordEntry {column : Nat} {name word : String} (key : Outline.IsKey name.toList)
    (isWord : IsWord word.toList) {rest : Outline} (fits : rest.Fits column) :
    (wordEntry name word rest).Fits column := by
  have written := Yaml.isWritten_word column isWord
  rw [String.ofList_toList] at written
  refine ⟨key, ?_, fits⟩
  rw [String.toList_append]
  exact written

theorem fits_optionalEntry {name : String} (key : Outline.IsKey name.toList) (s? : Option String)
    {rest : Outline} (fits : rest.Fits 2) : (optionalEntry name s? rest).Fits 2 := by
  cases s? with
  | none => exact fits_wordEntry key (by decide) fits
  | some s => exact fits_stringEntry key s fits

theorem fits_flagEntry {name : String} (key : Outline.IsKey name.toList) (b : Bool)
    {rest : Outline} (fits : rest.Fits 2) : (flagEntry name b rest).Fits 2 :=
  fits_wordEntry key (by cases b <;> decide) fits

theorem fits_databaseOutline (c : DatabaseConfig) : (databaseOutline c).Fits 2 := by
  have behind : Outline.Fits 2 (stringEntry 4 "version" c.version <|
      stringEntry 4 "display_name" c.displayName <|
        wordEntry "size" (toString c.size.toNat) .nil) :=
    fits_stringEntry (by decide) c.version <| fits_stringEntry (by decide) c.displayName <|
      fits_wordEntry (by decide) (Yaml.isWord_toString _) trivial
  refine fits_stringEntry (by decide) c.name ?_
  cases c.path with
  | none => exact behind
  | some path => exact fits_stringEntry (by decide) path behind

theorem fits_outline (c : Config) : c.outline.Fits 0 := by
  have timestamps : (timestampOutline c.timestamps).Fits 2 :=
    fits_optionalEntry (by decide) _ <| fits_optionalEntry (by decide) _ <|
      fits_stringEntry (by decide) _ trivial
  have migration : (migrationOutline c.migration).Fits 2 :=
    fits_flagEntry (by decide) _ <| fits_flagEntry (by decide) _ trivial
  have some' (name : String) (s? : Option String) (rest : Outline) :
      optionalEntry name s? rest ≠ .nil := by
    cases s? <;> exact Outline.noConfusion
  refine ⟨by decide, ⟨Outline.noConfusion, fits_databaseOutline c.database⟩, ?_⟩
  refine fits_stringEntry (by decide) c.versionTable ?_
  refine ⟨by decide, ⟨some' _ _ _, timestamps⟩, ?_⟩
  exact ⟨by decide, ⟨Outline.noConfusion, migration⟩, trivial⟩

/-! ## What is read -/

theorem readText_scalar (s : String) (style : Style) :
    readText (.scalar s style none) = some s := rfl

/-- A string is some string, not nothing. -/
theorem readOptional_string (s : String) :
    readOptional (.scalar s (stringStyle s) none) = some (some s) := by
  cases style : stringStyle s with
  | plain =>
    have itself := Yaml.readsOtherwise_of_plain style
    simp only [Yaml.readsOtherwise, Bool.or_eq_false_iff] at itself
    simp [readOptional, itself]
  | quoted => rfl
  | literal => rfl
  | folded => rfl

theorem readSize_repr (n : UInt64) :
    readSize (.scalar n.toNat.repr .plain none) = some n := by
  have read : Yaml.natural? n.toNat.repr = some n.toNat := Yaml.natural?_toString n.toNat
  have fits : n.toNat < UInt64.size := n.toNat_lt
  simp [readSize, readOfKind, read, fits]

theorem readFlag_word (b : Bool) :
    readFlag (.scalar (if b then "true" else "false") .plain none) = some b := by
  cases b <;> decide

section Entries

variable {σ : Type} {fields : List (Field σ)} (d : Yaml.Document) {seen : List String} {acc : σ}

/-- An entry that is read into its field. -/
theorem readEntries_entry {f : Field σ} {name : String}
    (found : fields.find? (fun f => f.name == name) = some f) (new : seen.contains name = false)
    {node : Yaml} {acc' : σ} (read : f.read d acc node = some acc') (rest : List (Yaml × Yaml)) :
    readEntries fields d seen acc ((.scalar name .plain none, node) :: rest) =
      readEntries fields d (name :: seen) acc' rest := by
  simp only [readEntries, Yaml.Document.resolve, readText, Option.bind_eq_bind, Option.bind_some,
    found, new, read, Bool.false_eq_true, if_false]

/-- An entry with a scalar. -/
theorem readEntries_field {α : Type} {name : String} {read : Yaml → Option α} {put : σ → α → σ}
    (found : fields.find? (fun f => f.name == name) = some (field name read put))
    (new : seen.contains name = false) {text : String} {style : Style} {v : α}
    (value : read (.scalar text style none) = some v) (rest : List (Yaml × Yaml)) :
    readEntries fields d seen acc
        ((.scalar name .plain none, .scalar text style none) :: rest) =
      readEntries fields d (name :: seen) (put acc v) rest := by
  refine readEntries_entry d found new ?_ rest
  simp [field, part, Yaml.Document.resolve, value]

end Entries

theorem readSection_databaseOutline (d : Yaml.Document) (c : DatabaseConfig) :
    readSection databaseFields .standard d (.mapping (databaseOutline c).nodes) = some c := by
  obtain ⟨name, path?, version, displayName, size⟩ := c
  cases path? with
  | none =>
    simp only [readSection, databaseOutline, pathEntry, stringEntry, wordEntry, Outline.nodes,
      String.ofList_toList]
    refine (readEntries_field d rfl rfl (readText_scalar _ _) _).trans ?_
    refine (readEntries_field d rfl rfl (readText_scalar _ _) _).trans ?_
    refine (readEntries_field d rfl rfl (readText_scalar _ _) _).trans ?_
    refine (readEntries_field d rfl rfl (readSize_repr size) _).trans ?_
    rfl
  | some path =>
    simp only [readSection, databaseOutline, pathEntry, stringEntry, wordEntry, Outline.nodes,
      String.ofList_toList]
    refine (readEntries_field d rfl rfl (readText_scalar _ _) _).trans ?_
    refine (readEntries_field d rfl rfl (readOptional_string path) _).trans ?_
    refine (readEntries_field d rfl rfl (readText_scalar _ _) _).trans ?_
    refine (readEntries_field d rfl rfl (readText_scalar _ _) _).trans ?_
    refine (readEntries_field d rfl rfl (readSize_repr size) _).trans ?_
    rfl

theorem exists_optional (name : String) (s? : Option String) (rest : Outline) :
    ∃ text style, (optionalEntry name s? rest).nodes =
      (.scalar name .plain none, .scalar text style none) :: rest.nodes ∧
        readOptional (.scalar text style none) = some s? := by
  cases s? with
  | none => exact ⟨"null", .plain, by simp [optionalEntry, wordEntry, Outline.nodes], rfl⟩
  | some s =>
    exact ⟨s, stringStyle s, by simp [optionalEntry, stringEntry, Outline.nodes],
      readOptional_string s⟩

theorem readSection_timestampOutline (d : Yaml.Document) (c : TimestampConfig) :
    readSection timestampFields .standard d (.mapping (timestampOutline c).nodes) = some c := by
  obtain ⟨create?, change?, timestampType⟩ := c
  obtain ⟨createText, createStyle, create, readCreate⟩ := exists_optional "create_column" create?
    (optionalEntry "change_column" change? (stringEntry 4 "timestamp_type" timestampType .nil))
  obtain ⟨changeText, changeStyle, change, readChange⟩ := exists_optional "change_column" change?
    (stringEntry 4 "timestamp_type" timestampType .nil)
  simp only [readSection, timestampOutline, create, change]
  simp only [stringEntry, Outline.nodes, String.ofList_toList]
  refine (readEntries_field d rfl rfl readCreate _).trans ?_
  refine (readEntries_field d rfl rfl readChange _).trans ?_
  refine (readEntries_field d rfl rfl (readText_scalar _ _) _).trans ?_
  rfl

theorem readSection_migrationOutline (d : Yaml.Document) (c : MigrationConfig) :
    readSection migrationFields .standard d (.mapping (migrationOutline c).nodes) = some c := by
  obtain ⟨events, ready⟩ := c
  simp only [readSection, migrationOutline, flagEntry, wordEntry, Outline.nodes,
    String.ofList_toList]
  refine (readEntries_field d rfl rfl (readFlag_word events) _).trans ?_
  refine (readEntries_field d rfl rfl (readFlag_word ready) _).trans ?_
  rfl

/-- The nodes of a configuration are read as the configuration. -/
theorem readSection_outline (c : Config) (anchored : List (Nat × Yaml)) (root : Option Yaml) :
    readSection fields .standard ⟨root, anchored⟩ (.mapping c.outline.nodes) = some c := by
  obtain ⟨database, versionTable, timestamps, migration⟩ := c
  have part {α : Type} {name : String} {read : Yaml.Document → Yaml → Option α}
      {put : Config → α → Config} {d : Yaml.Document} {entries : List (Yaml × Yaml)} {v : α}
      (value : read d (.mapping entries) = some v) (acc : Config) :
      (part name read put).read d acc (.mapping entries) = some (put acc v) := by
    simp [Config.part, Yaml.Document.resolve, value]
  simp only [readSection, outline, stringEntry, Outline.nodes, String.ofList_toList]
  refine (readEntries_entry _ rfl rfl (part (readSection_databaseOutline _ database) _) _).trans ?_
  refine (readEntries_field _ rfl rfl (readText_scalar _ _) _).trans ?_
  refine (readEntries_entry _ rfl rfl (part (readSection_timestampOutline _ timestamps) _) _).trans ?_
  refine (readEntries_entry _ rfl rfl (part (readSection_migrationOutline _ migration) _) _).trans ?_
  rfl

/-! ## Configurations -/

/-- What is written of a configuration is read as the configuration, valid or not. -/
theorem read_text (c : Config) : read c.text = some c := by
  have text : c.text = String.ofList (c.outline.text 0) := by
    rw [← toList_text, String.ofList_toList]
  rw [read, text, Outline.parse_text Outline.noConfusion (fits_outline c)]
  exact readSection_outline c [] _

/-- **What is written of a valid configuration is read as the configuration.** -/
theorem parse_text_of_valid (c : Config) (valid : c.validate = .ok ()) :
    parse c.text = .ok c := by
  rw [parse, read_text]
  simp only [valid]

/-- A configuration whose strings look like other things. -/
def awkward : Config :=
  { database :=
      { name := "0x1F", path := some "", version := "1.0\n\n", displayName := "\tyes: #no"
        size := 18446744073709551615 }
    versionTable := "null"
    timestamps := { createColumn := none, changeColumn := some "true", timestampType := "- 'DATE'" }
    migration := { eventsOnRerun := true, readyOnRerun := false } }

theorem parse_text_awkward :
    awkward.validate = .ok () ∧ parse awkward.text = .ok awkward :=
  ⟨by decide, parse_text_of_valid awkward (by decide)⟩

end Config

end FilterStore
