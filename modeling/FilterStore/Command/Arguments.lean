import FilterStore.Text.Letter

/-!
# Arguments of the program

The arguments are options, the name of a command, further options and the operands of the command.
Options that belong to every command may stand on either side of its name, and count behind it if
they stand on both; on one side an option stands once.

An option with a value is written `--name value` or `--name=value`, an option with a letter also as
`-l value`, `-lvalue` or `-l=value`.  Letters of options without a value may stand together.  A
value may not look like an option, and behind `--` nothing does.  Paths are not empty.

Whatever is not of this form is refused without saying why; only asking for help or for the version
is answered before the rest of the arguments is read.
-/

namespace FilterStore.Command

/-- The commands by name. -/
inductive Verb
  | dump
  | restore
  | compile
  | query
  | count
  | delete
  | status
  deriving DecidableEq, Repr

namespace Verb

def name : Verb → String
  | dump => "dump"
  | restore => "restore"
  | compile => "compile"
  | query => "query"
  | count => "count"
  | delete => "delete"
  | status => "status"

def all : List Verb := [dump, restore, compile, query, count, delete, status]

def parse? (s : String) : Option Verb := all.find? fun v => v.name == s

/-- How many operands a command takes at most. -/
def operandLimit : Verb → Nat
  | dump | status => 0
  | restore => 1
  | compile | query | count | delete => 2

end Verb

/-- A command with its operands. -/
inductive Job
  /-- Writes the document of a dump to a file, or prints it. -/
  | dump (output : Option String)
  /-- Replays the document in a file. -/
  | restore (input : String)
  /-- Prints the statement and the values of a request. -/
  | compile (table spec : String)
  /-- Prints the records of a request. -/
  | query (table spec : String)
  /-- Prints how many records there are. -/
  | count (table : String) (spec : Option String)
  /-- Deletes the records of a request. -/
  | delete (table spec : String)
  /-- Prints the versions and the sizes of the tables. -/
  | status
  deriving DecidableEq, Repr

/-- What the program is asked to do. -/
structure Invocation where
  /-- The path of the database, before that of the configuration. -/
  database : Option String
  /-- The path of the configuration. -/
  config : Option String
  verbose : Bool
  job : Job
  deriving DecidableEq, Repr

/-- What help is about. -/
inductive Topic
  | program
  | verb (v : Verb)
  | help
  deriving DecidableEq, Repr

/-- Why reading the arguments comes to an end before there is something to do. -/
inductive Ending
  | help (topic : Topic)
  | version
  | refused
  deriving DecidableEq, Repr

/-! ## Words -/

/-- An argument by its form. -/
inductive Word
  /-- Nothing behind it is an option. -/
  | separator
  | long (name : String) (value : Option String)
  | short (letters : List Char)
  | plain (text : String)
  deriving DecidableEq, Repr

/-- An argument by its form.  A lone dash is a plain word. -/
def Word.ofString (s : String) : Word :=
  match s.toList with
  | ['-', '-'] => separator
  | '-' :: '-' :: cs =>
    let name := cs.takeWhile (· != '=')
    match cs.drop name.length with
    | [] => long (String.ofList cs) none
    | _ :: value => long (String.ofList name) (some (String.ofList value))
  | '-' :: c :: cs => short (c :: cs)
  | _ => plain s

/-! ## Options -/

/-- Options with a value; all values are paths. -/
inductive Setting
  | database
  | config
  | output
  deriving DecidableEq, Repr

/-- Options. -/
inductive Switch
  | setting (s : Setting)
  | verbose
  | ending (e : Ending)
  deriving DecidableEq, Repr

/-- Where an argument stands: before the name of the command, or behind it. -/
abbrev Level := Option Verb

namespace Level

/-- What help is about here. -/
def topic : Level → Topic
  | none => .program
  | some v => .verb v

/-- The option of a name. -/
def long? (level : Level) (name : String) : Option Switch :=
  if name == "database" then some (.setting .database)
  else if name == "config" then some (.setting .config)
  else if name == "verbose" then some .verbose
  else if name == "help" then some (.ending (.help (topic level)))
  else if name == "version" && level == none then some (.ending .version)
  else if name == "output" && level == some .dump then some (.setting .output)
  else none

/-- The option of a letter. -/
def short? (level : Level) (letter : Char) : Option Switch :=
  match letter with
  | 'v' => some .verbose
  | 'h' => some (.ending (.help (topic level)))
  | 'V' => if level = none then some (.ending .version) else none
  | 'o' => if level = some .dump then some (.setting .output) else none
  | _ => none

end Level

/-- What the arguments of one side of the name of the command give. -/
structure Given where
  database : Option String
  config : Option String
  output : Option String
  verbose : Bool
  operands : List String
  deriving DecidableEq, Repr

namespace Given

def nothing : Given := ⟨none, none, none, false, []⟩

/-- A path that was not given before. -/
def once (before : Option String) (path : String) : Except Ending (Option String) :=
  if before.isSome || path.isEmpty then .error .refused else .ok (some path)

/-- Gives an option its value. -/
def set (g : Given) (path : String) : Setting → Except Ending Given
  | .database => (once g.database path).map fun p => { g with database := p }
  | .config => (once g.config path).map fun p => { g with config := p }
  | .output => (once g.output path).map fun p => { g with output := p }

/-- Gives an option without a value; the answer may be an option whose value is to follow. -/
def switch (g : Given) : Switch → Except Ending (Given × Option Setting)
  | .setting s => .ok (g, some s)
  | .verbose => if g.verbose then .error .refused else .ok ({ g with verbose := true }, none)
  | .ending e => .error e

/-- Gives an option by its name. -/
def long (g : Given) (level : Level) (name : String) (value : Option String) :
    Except Ending (Given × Option Setting) :=
  match level.long? name, value with
  | some (.setting s), some path => (g.set path s).map fun g => (g, none)
  | some option, none => g.switch option
  | _, _ => .error .refused

/-- Gives options by their letters. -/
def short (g : Given) (level : Level) : List Char → Except Ending (Given × Option Setting)
  | [] => .ok (g, none)
  | letter :: letters =>
    match level.short? letter, letters with
    | some (.setting s), '=' :: path | some (.setting s), path@(_ :: _) =>
      (g.set (String.ofList path) s).map fun g => (g, none)
    | some option, _ => do
      let (g, wanted) ← g.switch option
      match wanted with
      | some s => .ok (g, some s)
      | none => short g level letters
    | none, _ => .error .refused

/-- Gives an operand, if the command takes one more. -/
def operand (g : Given) (v : Verb) (text : String) : Except Ending Given :=
  if g.operands.length < v.operandLimit then .ok { g with operands := g.operands ++ [text] }
  else .error .refused

/-- The two operands of a command that takes two. -/
def pair (g : Given) (make : String → String → Job) : Except Ending Job :=
  match g.operands with
  | [table, spec] => .ok (make table spec)
  | _ => .error .refused

/-- The job of a command. -/
def job (g : Given) : Verb → Except Ending Job
  | .dump => .ok (.dump g.output)
  | .status => .ok .status
  | .restore =>
    match g.operands with
    | [input] => if input.isEmpty then .error .refused else .ok (.restore input)
    | _ => .error .refused
  | .count =>
    match g.operands with
    | [table] => .ok (.count table none)
    | [table, spec] => .ok (.count table (some spec))
    | _ => .error .refused
  | .compile => g.pair .compile
  | .query => g.pair .query
  | .delete => g.pair .delete

end Given

/-! ## Reading -/

/-- Reads arguments up to the first plain word before the name of the command, and to their end
behind it.  An option may still want its value. -/
def readWords (level : Level) : Given → Option Setting → List String →
    Except Ending (Given × List String)
  | g, none, [] => .ok (g, [])
  | _, some _, [] => .error .refused
  | g, wanted, arg :: rest =>
    match Word.ofString arg, wanted with
    | .plain text, some s => do readWords level (← g.set text s) none rest
    | .plain text, none =>
      match level with
      | none => .ok (g, arg :: rest)
      | some v => do readWords level (← g.operand v text) none rest
    | _, some _ => .error .refused
    | .separator, none =>
      match level with
      | none => .error .refused
      | some v => do .ok (← rest.foldlM (fun g text => g.operand v text) g, [])
    | .long name value, none => do
      let (g, wanted) ← g.long level name value
      readWords level g wanted rest
    | .short letters, none => do
      let (g, wanted) ← g.short level letters
      readWords level g wanted rest

/-- What the words behind `help` ask for. -/
def readTopic : List String → Ending
  | [] => .help .program
  | [name] =>
    if name == "help" then .help .help
    else
      match Verb.parse? name with
      | some v => .help (.verb v)
      | none => .refused
  | _ => .refused

/-- Reads the arguments of the program. -/
def Invocation.ofArguments (args : List String) : Except Ending Invocation := do
  let (before, rest) ← readWords none .nothing none args
  match rest with
  | [] => .error .refused
  | name :: rest =>
    if name == "help" then .error (readTopic rest)
    else
      match Verb.parse? name with
      | none => .error .refused
      | some v => do
        let (behind, _) ← readWords (some v) .nothing none rest
        let job ← behind.job v
        .ok
          { database := behind.database <|> before.database
            config := behind.config <|> before.config
            verbose := before.verbose || behind.verbose
            job }

/-! ## Help

Help on the program lists the commands and the options.  Help on a command lists its operands, if
it has any, and its options.  Names stand in one column and what they mean in another, two blanks
behind the longest name. -/

/-- A name and what it means. -/
abbrev Line := String × String

/-- Lines under a heading; none without lines. -/
def block (heading : String) (lines : List Line) : String :=
  let width := (lines.map fun l => l.1.length).foldl max 0
  let line := fun (l : Line) =>
    "  " ++ l.1 ++ String.ofList (List.replicate (width - l.1.length + 2) ' ') ++ l.2 ++ "\n"
  if lines.isEmpty then "" else "\n" ++ heading ++ ":\n" ++ String.join (lines.map line)

namespace Verb

/-- What a command does. -/
def about : Verb → String
  | dump => "Write schema and data as a JSON dump document"
  | restore => "Replay a dump document into the database"
  | compile => "Print the SQL and bound values a filter spec compiles to"
  | query => "Print the rows matching a filter spec as JSON"
  | count => "Print the number of rows matching a filter spec"
  | delete => "Delete the rows matching a filter spec"
  | status => "Show the schema version ledger and table row counts"

/-- The operands of a command. -/
def operands : Verb → List Line
  | dump | status => []
  | restore => [("<INPUT>", "Dump document (\x60.json\x60 or \x60.json.gz\x60)")]
  | compile | query | delete =>
    [("<TABLE>", "Table to search"),
     ("<SPEC>", "Filter spec as JSON, or \x60@path\x60 to read it from a file")]
  | count =>
    [("<TABLE>", "Table to count"),
     ("[SPEC]", "Filter spec as JSON, or \x60@path\x60. Counts every row if omitted")]

end Verb

/-- The line of the option that only dumping has. -/
def outputLine : Line :=
  ("-o, --output <OUTPUT>",
    "Output file; a \x60.gz\x60 suffix compresses it. Prints to stdout if omitted")

/-- The lines of the options of a command; what belongs to one command only stands behind the first
option of all commands. -/
def optionLines (own : List Line) : List Line :=
  [("    --database <DATABASE>",
    "Database file. Overrides \x60database.path\x60 from the config file")] ++ own ++
  [("    --config <CONFIG>", "YAML store configuration"),
   ("-v, --verbose", "Log debug output to stderr. \x60RUST_LOG\x60 takes precedence"),
   ("-h, --help", "Print help")]

namespace Topic

/-- What is said about a topic first. -/
def about : Topic → String
  | program => "Inspect, query, dump and restore filterdb databases"
  | verb v => v.about
  | help => "Print this message or the help of the given subcommand(s)"

/-- The form of the arguments. -/
def usage : Topic → String
  | program => "filterdb [OPTIONS] <COMMAND>"
  | verb v => " ".intercalate (["filterdb", v.name, "[OPTIONS]"] ++ v.operands.map (·.1))
  | help => "filterdb help [COMMAND]..."

/-- What is listed about a topic. -/
def blocks : Topic → String
  | program =>
    block "Commands" (Verb.all.map (fun v => (v.name, v.about)) ++ [("help", help.about)]) ++
      block "Options" (optionLines [] ++ [("-V, --version", "Print version")])
  | verb v =>
    block "Arguments" v.operands ++
      block "Options" (optionLines (if v = .dump then [outputLine] else []))
  | help => block "Arguments" [("[COMMAND]...", "Print help for the subcommand(s)")]

/-- The text of help. -/
def text (t : Topic) : String := t.about ++ "\n\nUsage: " ++ t.usage ++ "\n" ++ t.blocks

end Topic

/-- What the program says its version is. -/
def versionText : String := "filterdb 0.1.0\n"

end FilterStore.Command
