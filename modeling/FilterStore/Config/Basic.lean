import FilterStore.Schema.Registry

/-!
# Configuration

A configuration says where the database lives, in which table the applied versions are recorded, how
timestamps are kept and what running migrations again does.  Every part has a default, so nothing at
all is a configuration: an in-memory database with the standard names.

A configuration is *valid* if the names in it are names, if there is a timestamp type and if the two
timestamp columns are not one.
-/

namespace FilterStore

open Text (trim sameName)

/-- Where a database lives and how it presents itself. -/
structure DatabaseConfig where
  name : String
  /-- Without a path the database is in memory. -/
  path : Option String
  version : String
  displayName : String
  /-- The expected size in bytes, for information. -/
  size : UInt64
  deriving DecidableEq, Repr

/-- The columns of creation and last change, and their type. -/
structure TimestampConfig where
  createColumn : Option String
  changeColumn : Option String
  timestampType : String
  deriving DecidableEq, Repr

/-- What running the migrations again does. -/
structure MigrationConfig where
  eventsOnRerun : Bool
  readyOnRerun : Bool
  deriving DecidableEq, Repr

/-- The configuration of a store. -/
structure Config where
  database : DatabaseConfig
  versionTable : String
  timestamps : TimestampConfig
  migration : MigrationConfig
  deriving DecidableEq, Repr

def DatabaseConfig.standard : DatabaseConfig :=
  { name := "filterdb", path := none, version := "1.0", displayName := "filterdb"
    size := 5 * 1024 * 1024 }

def TimestampConfig.standard : TimestampConfig :=
  { createColumn := RegistryOptions.standard.createColumn
    changeColumn := RegistryOptions.standard.changeColumn
    timestampType := RegistryOptions.standard.timestampType }

def MigrationConfig.standard : MigrationConfig := ⟨false, false⟩

/-- The name of the version table where none is configured. -/
def standardVersionTable : String := "_dbVersion"

/-- Why a configuration is not valid. -/
inductive ConfigFault
  | notIdentifier (field value : String)
  | noTimestampType
  | sameColumn (name : String)
  deriving DecidableEq, Repr

def ConfigFault.message : ConfigFault → String
  | notIdentifier field value =>
    field ++ " must be a non-empty identifier, got '" ++ value ++ "'"
  | noTimestampType => "timestamps.timestamp_type must not be empty"
  | sameColumn name =>
    "timestamps.create_column and timestamps.change_column are both '" ++ name ++ "'"

namespace Config

def standard : Config :=
  ⟨.standard, standardVersionTable, .standard, .standard⟩

/-- Fails unless a field is a name, blanks around it aside. -/
def checkName (field value : String) : Except ConfigFault Unit :=
  if isIdentifier (trim value) then .ok () else .error (.notIdentifier field value)

/-- Fails unless a field that is there is a name. -/
def checkOptionalName (field : String) : Option String → Except ConfigFault Unit
  | some value => checkName field value
  | none => .ok ()

/-- Fails unless the configuration is valid. -/
def validate (c : Config) : Except ConfigFault Unit := do
  checkName "version_table" c.versionTable
  checkOptionalName "timestamps.create_column" c.timestamps.createColumn
  checkOptionalName "timestamps.change_column" c.timestamps.changeColumn
  if (trim c.timestamps.timestampType).isEmpty then .error .noTimestampType
  else
    match c.timestamps.createColumn, c.timestamps.changeColumn with
    | some create, some change =>
      if sameName create change then .error (.sameColumn create) else .ok ()
    | _, _ => .ok ()

/-- Whether the database is in memory. -/
def inMemory (c : Config) : Bool := c.database.path.isNone

/-- The options of a registry. -/
def registryOptions (c : Config) : RegistryOptions :=
  { createColumn := c.timestamps.createColumn
    changeColumn := c.timestamps.changeColumn
    timestampType := trim c.timestamps.timestampType }

end Config

end FilterStore
