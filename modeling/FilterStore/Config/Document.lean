import FilterStore.Config.Basic
import FilterStore.Yaml.Printer
import FilterStore.Yaml.Reader

/-!
# Configurations as YAML

A configuration is written with all its fields but an absent path; an absent column is written as
`null`, since leaving it out would mean the standard one.  Reading takes each section as a mapping
by names, fills in what is missing, and skips what it does not know; a field that is given twice is
refused.

A text field takes any scalar as it is written, so `1.0` and `"1.0"` are one version.  Sizes and
yes-or-no fields are plain scalars of their kind.
-/

namespace FilterStore

/-- Why a configuration could not be read. -/
inductive ConfigError
  /-- Not YAML, or not of the form of a configuration. -/
  | yaml
  | invalid (fault : ConfigFault)
  deriving DecidableEq, Repr

namespace Config

/-- A field of a section: its name, and how a node of a document is read into the section. -/
structure Field (σ : Type) where
  name : String
  read : Yaml.Document → σ → Yaml → Option σ

/-- The text of a scalar. -/
def readText : Yaml → Option String
  | .scalar s _ _ => some s
  | _ => none

/-- Reads the entries of a section.  `seen` holds the names read before. -/
def readEntries {σ : Type} (fields : List (Field σ)) (d : Yaml.Document) :
    List String → σ → List (Yaml × Yaml) → Option σ
  | _, acc, [] => some acc
  | seen, acc, (key, node) :: rest => do
    let name ← (d.resolve key).bind readText
    match fields.find? fun f => f.name == name with
    | none => readEntries fields d seen acc rest
    | some f =>
      if seen.contains name then none
      else
        let acc ← f.read d acc node
        readEntries fields d (name :: seen) acc rest

/-- Reads a section whose missing fields are those of `start`. -/
def readSection {σ : Type} (fields : List (Field σ)) (start : σ) (d : Yaml.Document) (node : Yaml) :
    Option σ :=
  match node with
  | .mapping entries => readEntries fields d [] start entries
  | node => if node.isMissing then some start else none

/-- A text or nothing.  A scalar that is marked as nothing must spell it. -/
def readOptional : Yaml → Option (Option String)
  | .scalar s .plain (some tag) =>
    if tag != "tag:yaml.org,2002:null" then some (some s)
    else if Yaml.isNullWord s then some none
    else none
  | .scalar s .plain none => some (if s.isEmpty || Yaml.isNullWord s then none else some s)
  | .scalar s _ _ => some (some s)
  | _ => none

/-- The text of a scalar that can be of a kind: a plain one, or lines that are marked as such. -/
def readOfKind (kind : String) : Yaml → Option String
  | .scalar s .plain _ => some s
  | .scalar s .literal (some tag) => if tag == kind then some s else none
  | _ => none

/-- A yes or no. -/
def readFlag (node : Yaml) : Option Bool :=
  (readOfKind "tag:yaml.org,2002:bool" node).bind Yaml.bool?

/-- A natural number of 64 bits. -/
def readSize (node : Yaml) : Option UInt64 := do
  let s ← readOfKind "tag:yaml.org,2002:int" node
  let n ← Yaml.natural? s
  if n < UInt64.size then some (UInt64.ofNat n) else none

/-- A field whose node is read in a document. -/
def part {σ α : Type} (name : String) (read : Yaml.Document → Yaml → Option α) (put : σ → α → σ) :
    Field σ :=
  ⟨name, fun d acc node => ((d.resolve node).bind (read d)).map (put acc)⟩

/-- A field whose node is read for itself. -/
def field {σ α : Type} (name : String) (read : Yaml → Option α) (put : σ → α → σ) : Field σ :=
  part name (fun _ => read) put

def databaseFields : List (Field DatabaseConfig) :=
  [field "name" readText fun c v => { c with name := v },
   field "path" readOptional fun c v => { c with path := v },
   field "version" readText fun c v => { c with version := v },
   field "display_name" readText fun c v => { c with displayName := v },
   field "size" readSize fun c v => { c with size := v }]

def timestampFields : List (Field TimestampConfig) :=
  [field "create_column" readOptional fun c v => { c with createColumn := v },
   field "change_column" readOptional fun c v => { c with changeColumn := v },
   field "timestamp_type" readText fun c v => { c with timestampType := v }]

def migrationFields : List (Field MigrationConfig) :=
  [field "trigger_events_on_reexecute" readFlag fun c v => { c with eventsOnRerun := v },
   field "recall_ready_functions_on_reexecute" readFlag fun c v => { c with readyOnRerun := v }]

def fields : List (Field Config) :=
  [part "database" (readSection databaseFields .standard) fun c v => { c with database := v },
   field "version_table" readText fun c v => { c with versionTable := v },
   part "timestamps" (readSection timestampFields .standard) fun c v => { c with timestamps := v },
   part "migration" (readSection migrationFields .standard) fun c v => { c with migration := v }]

/-- Reads a configuration without asking whether it is valid. -/
def read (s : String) : Option Config := do
  let d ← Yaml.parse s
  match d.root with
  | none => some .standard
  | some root => readSection fields .standard d root

/-- Reads a valid configuration. -/
def parse (s : String) : Except ConfigError Config :=
  match read s with
  | none => .error .yaml
  | some c =>
    match c.validate with
    | .ok () => .ok c
    | .error fault => .error (.invalid fault)

/-- An entry of a section, with its text up to the end of the line. -/
def entryText (name value : String) : String := "  " ++ name ++ ": " ++ value

/-- A text of a section. -/
def sectionText (s : String) : String := Yaml.stringText 4 s

/-- A text or nothing. -/
def optionalText : Option String → String
  | some s => sectionText s
  | none => "null\n"

/-- A yes or no. -/
def flagText (b : Bool) : String := if b then "true\n" else "false\n"

/-- The text of a configuration. -/
def text (c : Config) : String :=
  let path :=
    match c.database.path with
    | some p => entryText "path" (sectionText p)
    | none => ""
  "database:\n" ++ entryText "name" (sectionText c.database.name) ++ path ++
    entryText "version" (sectionText c.database.version) ++
    entryText "display_name" (sectionText c.database.displayName) ++
    entryText "size" (toString c.database.size.toNat ++ "\n") ++
    "version_table: " ++ Yaml.stringText 2 c.versionTable ++
    "timestamps:\n" ++ entryText "create_column" (optionalText c.timestamps.createColumn) ++
    entryText "change_column" (optionalText c.timestamps.changeColumn) ++
    entryText "timestamp_type" (sectionText c.timestamps.timestampType) ++
    "migration:\n" ++
    entryText "trigger_events_on_reexecute" (flagText c.migration.eventsOnRerun) ++
    entryText "recall_ready_functions_on_reexecute" (flagText c.migration.readyOnRerun)

end Config

end FilterStore
