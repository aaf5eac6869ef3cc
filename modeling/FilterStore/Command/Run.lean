import FilterStore.Command.Arguments
import FilterStore.Command.Files
import FilterStore.Config.Document
import FilterStore.Dump.Restore
import FilterStore.Failure
import FilterStore.Filter.Reader
import FilterStore.Migration.VersionTable
import FilterStore.Query.Statement
import FilterStore.Schema.Introspection

/-!
# Running a command

A command works on files, one of which is a database, and prints.  What it printed before it failed
stays printed, and what it did to the database stays done.

Everything is asked of the database as it is: its schema is read anew by every command, and nothing
is known about a table but what its definition says.
-/

namespace FilterStore.Command

/-! ## Why a command fails

A command fails at a path that leads nowhere, at a file that cannot be understood, at a request that
does not fit the schema, or at the database.  Each of these is told with what was being done. -/

/-- Why a text of JSON was not understood. -/
def jsonReason : Json.Fault → String
  | .malformed => "the text is not JSON"
  | .mismatch => "the JSON is not of the expected form"

/-- Why a configuration was not understood. -/
def configReason : ConfigError → String
  | .yaml => "YAML error: the text is not that of a configuration"
  | .invalid f => "invalid config: " ++ f.message

/-- Why a document was not understood. -/
def documentReason : FileFault → String
  | .json f => "JSON error: " ++ jsonReason f
  | .compression => "compression error: invalid gzip header"

/-- A path that leads nowhere. -/
def pathReason (f : PathFault) : String := "I/O error: " ++ f.message

/-- Why a file is of no use: it could not be read, or it was not understood. -/
inductive ReadFault (φ : Type)
  | path (f : PathFault)
  | contents (f : φ)
  deriving DecidableEq, Repr

def ReadFault.message {φ : Type} (reason : φ → String) : ReadFault φ → String
  | path f => pathReason f
  | contents f => reason f

/-- Why a command failed. -/
inductive CommandFault
  | config (path : String) (f : ReadFault ConfigError)
  | noDatabase
  | notOpened (path : String) (f : Sql.Fault)
  | schema (f : Failure)
  | specFile (path : String) (f : PathFault)
  | specText (f : Json.Fault)
  | spec (e : Error)
  | request (e : Error)
  | query (f : Failure)
  | count (f : Failure)
  | delete (f : Failure)
  | versions (f : Failure)
  | dump (f : Failure)
  | written (path : String) (f : PathFault)
  | document (path : String) (f : ReadFault FileFault)
  | restore (f : Failure)
  | tables (failed : Nat)
  deriving DecidableEq, Repr

/-- The failure of a statement that finds a file of another kind. -/
def foreignFailure (sql : String) : Failure :=
  .engine { fault := .notDatabase, source := sql, sql := some sql }

/-- What is told of a database that cannot be opened. -/
def openFailure (f : Sql.Fault) : Failure := .engine { fault := f, source := "", sql := none }

/-- A path as it is told. -/
def quoted (path : String) : String := "'" ++ path ++ "'"

/-- The wording of a fault. -/
def CommandFault.message : CommandFault → String
  | config path f =>
    "Failed to load config " ++ quoted path ++ ": " ++ f.message configReason
  | noDatabase => "No database given: pass --database or set database.path in --config"
  | notOpened path f =>
    "Failed to open database " ++ quoted path ++ ": " ++ (openFailure f).message
  | schema f => "Failed to read schema: " ++ f.message
  | specFile path f => "Failed to read spec file " ++ quoted path ++ ": " ++ f.message
  | specText f => "Invalid spec JSON: " ++ jsonReason f
  | spec e => "Invalid filter spec: " ++ e.message
  | request e => e.message
  | query f => "Query failed: " ++ f.message
  | count f => "Count failed: " ++ f.message
  | delete f => "Delete failed: " ++ f.message
  | versions f => "Failed to read version ledger: " ++ f.message
  | dump f => "Dump failed: " ++ f.message
  | written path f => "Failed to write " ++ quoted path ++ ": " ++ pathReason f
  | document path f =>
    "Failed to read dump " ++ quoted path ++ ": " ++ f.message documentReason
  | restore f => "Restore failed: " ++ f.message
  | tables failed => toString failed ++ " table(s) failed to restore"

/-! ## What a command works on -/

open Engine (Connection)

/-- A database in use. -/
inductive Source
  | connection (c : Connection)
  /-- A file of another kind. -/
  | foreign

/-- What a command works on. -/
structure Console where
  files : Files
  now : Calendar.Instant
  /-- The database in use, with its place. -/
  source : Option (Location × Source)
  /-- What was printed as the answer. -/
  out : String
  /-- What was printed besides. -/
  err : String

/-- What a command does. -/
abbrev Run := ExceptT CommandFault (StateM Console)

/-- The path of the file an argument names behind an `@`. -/
def specPath? (argument : String) : Option String :=
  match argument.toList with
  | '@' :: path => some (String.ofList path)
  | _ => none

namespace Run

/-- Prints a line of the answer. -/
def say (line : String) : Run Unit := modify fun c => { c with out := c.out ++ line ++ "\n" }

/-- Prints a line that is not of the answer. -/
def tell (line : String) : Run Unit := modify fun c => { c with err := c.err ++ line ++ "\n" }

/-- Fails in a way of its own where something fails. -/
def orFail {ε α : Type} (fault : ε → CommandFault) : Except ε α → Run α
  | .ok a => pure a
  | .error e => throw (fault e)

/-- Opens a database.  One that is not there is made, if it may be. -/
def openDatabase (path : String) : Run Unit := do
  let l ← orFail (.notOpened path) (Location.ofName path)
  let c ← get
  match c.files.openDatabase l with
  | none => throw (.notOpened path (.cannotOpen path))
  | some (.foreign, files) => set { c with files, source := some (l, .foreign) }
  | some (.database d, files) =>
    let connection := { Connection.ofDatabase d c.now with readOnly := l.isReadOnly }
    set { c with files, source := some (l, .connection connection) }

/-- Works on the database in use.  `first` is the statement with which the work begins. -/
def onDatabase {α : Type} (fault : Failure → CommandFault) (first : Option String)
    (action : Action α) : Run α := do
  let c ← get
  match c.source, first with
  | none, _ => throw .noDatabase
  | some (_, .foreign), some sql => throw (fault (foreignFailure sql))
  | some (_, .foreign), none => orFail fault (action.run (.ofDatabase .empty c.now)).1
  | some (l, .connection before), _ =>
    let (result, after) := action.run before
    set
      { c with
        files := c.files.keep l after.left
        source := some (l, .connection after) }
    orFail fault result

/-- The schema of the database in use. -/
def schema (config : Config) : Run Registry :=
  onDatabase .schema (some Registry.tableNamesSql) do
    Action.ofRequest (Registry.ofDatabase config.registryOptions (← get).database)

/-- Runs a query on the database in use. -/
def execute (fault : Failure → CommandFault) (q : Query) : Run Engine.ResultSet :=
  onDatabase fault (some q.sql) (Action.execute q)

/-! ## Requests -/

/-- The text of a request: the argument itself, or what is in the file it names. -/
def specText (argument : String) : Run String := do
  match specPath? argument with
  | some path => orFail (.specFile path) ((← get).files.text path)
  | none => pure argument

/-- Reads a request. -/
def spec (argument : String) : Run Spec := do
  let json ← orFail .specText (Json.parse (← specText argument))
  orFail .spec (Spec.ofJson json)

/-- How many records a request asks for. -/
def countRecords (registry : Registry) (table : String) (spec : Spec) : Run Int := do
  let q ← orFail .request (registry.compileCount table spec)
  let answer ← execute .count q
  match answer.first with
  | .integer n => pure n.toInt
  | _ => pure 0

/-! ## Commands -/

/-- Dumps the database to a file, or prints the dump. -/
def dump (output : Option String) : Run Unit := do
  let document ← onDatabase .dump (some Document.objectsSql) Document.ofDatabase
  match output with
  | none => say document.text
  | some path =>
    let files ← orFail (.written path) ((← get).files.write path (document.contents path))
    modify fun c => { c with files }
    say ("Dumped " ++ toString document.tables.length ++ " table(s), " ++
      toString document.rowCount ++ " row(s) to " ++ quoted path ++ ".")

/-- Reads the document of a dump. -/
def readDocument (path : String) : Run Document := do
  let contents ← orFail (fun f => .document path (.path f)) ((← get).files.contents path)
  orFail (fun f => .document path (.contents f)) (Document.load path contents)

/-- Restores a dump.  Fails in the end if a table could not be restored. -/
def restore (document : Document) : Run Unit := do
  let outcome ← onDatabase .restore document.firstStatement? document.restore
  let failed := outcome.errors.length
  say ("Restored " ++ toString (document.data.length - failed) ++ " of " ++
    toString document.data.length ++ " table(s).")
  outcome.errors.forM fun (table, reason) => tell ("  " ++ table ++ ": " ++ reason)
  if failed ≠ 0 then throw (.tables failed)

/-- Prints the statement of a request and its values. -/
def compile (registry : Registry) (table : String) (spec : Spec) : Run Unit := do
  let q ← orFail .request (registry.compileSelect table spec)
  say q.sql
  say (Json.array (q.values.map Cell.toJson)).compact

/-- Prints the records a request asks for. -/
def query (registry : Registry) (table : String) (spec : Spec) : Run Unit := do
  let q ← orFail .request (registry.compileSelect table spec)
  let answer ← execute .query q
  let records := answer.rows.map (registry.decodeRow table answer.columns)
  say (Json.array (records.map Record.toJson)).pretty

/-- Prints how many records a request asks for. -/
def count (registry : Registry) (table : String) (spec : Spec) : Run Unit := do
  say (toString (← countRecords registry table spec))

/-- Deletes the records a request asks for. -/
def delete (registry : Registry) (table : String) (spec : Spec) : Run Unit := do
  let q ← orFail .request (registry.compileDelete table spec)
  let answer ← execute .delete q
  say ("Deleted " ++ toString answer.affected ++ " row(s) from " ++ quoted table ++ ".")

/-- Prints the versions. -/
def versions (versionTable : String) (versions : List Int64) : Run Unit := do
  match versions.getLast? with
  | none => say ("  Schema version: none (" ++ versionTable ++ " missing)")
  | some v =>
    say ("  Schema version: " ++ toString v.toInt)
    say ("  Applied versions: " ++ ", ".intercalate (versions.map fun v => toString v.toInt))

/-- Prints what is known about the versions of the schema, and the sizes of the tables but that of
the versions. -/
def status (config : Config) (registry : Registry) : Run Unit := do
  let migrations : Migrations Connection Unit ← orFail .request (Migrations.ofConfig config)
  let versionTable := migrations.versionTable
  let applied ← onDatabase .versions (some (VersionTable.versionsSql versionTable)) do
    Action.ofExcept (VersionTable.versions versionTable (← get))
  say "Database Status:"
  config.database.path.forM fun path => say ("  Path: " ++ path)
  versions versionTable applied
  say "  Tables:"
  let tables := registry.tables.filter fun t => !Text.sameName t.name versionTable
  tables.forM fun t => do
    let n ← countRecords registry t.name .empty
    say ("    " ++ t.name ++ ": " ++ toString n ++ " row(s)")

/-! ## The program -/

/-- Reads the configuration under a path. -/
def readConfig (path : String) : Run Config := do
  let contents ← orFail (fun f => .config path (.path f)) ((← get).files.contents path)
  match contents with
  | .plain s => orFail (fun f => .config path (.contents f)) (Config.parse s)
  | _ => throw (.config path (.contents .yaml))

/-- The configuration of an invocation, with the path of the database. -/
def config (i : Invocation) : Run (Config × String) := do
  let config ←
    match i.config with
    | some path => readConfig path
    | none => pure .standard
  match i.database <|> config.database.path with
  | none => throw .noDatabase
  | some path => pure ({ config with database := { config.database with path := some path } }, path)

/-- Does what an invocation asks for. -/
def invocation (i : Invocation) : Run Unit := do
  let (config, path) ← config i
  match i.job with
  | .dump output =>
    openDatabase path
    dump output
  | .restore input =>
    let document ← readDocument input
    openDatabase path
    restore document
  | .compile table argument =>
    openDatabase path
    let registry ← schema config
    compile registry table (← spec argument)
  | .query table argument =>
    openDatabase path
    let registry ← schema config
    query registry table (← spec argument)
  | .count table argument =>
    openDatabase path
    let registry ← schema config
    let spec ← argument.elim (pure .empty) spec
    count registry table spec
  | .delete table argument =>
    openDatabase path
    let registry ← schema config
    delete registry table (← spec argument)
  | .status =>
    openDatabase path
    status config (← schema config)

end Run

namespace Invocation

/-- A console on which nothing has happened yet. -/
def console (_ : Invocation) (now : Calendar.Instant) (files : Files) : Console :=
  { files, now, source := none, out := "", err := "" }

/-- The paths that opening the database leads by, if the configuration can be read and there is a
database that is kept. -/
def databasePaths (i : Invocation) (now : Calendar.Instant) (files : Files) : List String :=
  match (Run.config i).run (i.console now files) with
  | (.ok (_, path), _) =>
    match Location.ofName path with
    | .ok l =>
      if l.isTransient then [] else [l.path, (Route.ofPath l.path).straight.path]
    | .error _ => []
  | (.error _, _) => []

/-- The paths of other files that are read or written. -/
def paths (i : Invocation) : List String :=
  i.config.toList ++
    match i.job with
    | .dump output => output.toList
    | .restore input => [input]
    | .compile _ argument | .query _ argument | .delete _ argument => (specPath? argument).toList
    | .count _ argument => (argument.bind specPath?).toList
    | .status => []

end Invocation

/-- What the program leaves behind. -/
structure Outcome where
  code : UInt8
  out : String
  err : String
  deriving DecidableEq, Repr

/-- What is printed about arguments that make no sense. -/
def refusalText : String :=
  "error: invalid arguments\n\nUsage: " ++ Topic.program.usage ++
    "\n\nFor more information, try '--help'.\n"

/-- What the program answers without doing anything. -/
def Ending.outcome : Ending → Outcome
  | .help topic => ⟨0, topic.text, ""⟩
  | .version => ⟨0, versionText, ""⟩
  | .refused => ⟨2, "", refusalText⟩

/-- Runs the program: its outcome, and the files afterwards. -/
def runProgram (args : List String) (now : Calendar.Instant) (files : Files) : Outcome × Files :=
  match Invocation.ofArguments args with
  | .error ending => (ending.outcome, files)
  | .ok i =>
    let (result, c) := (Run.invocation i).run (i.console now files)
    match result with
    | .ok () => (⟨0, c.out, c.err⟩, c.files)
    | .error f => (⟨1, c.out, c.err ++ "error: " ++ f.message ++ "\n"⟩, c.files)

end FilterStore.Command
