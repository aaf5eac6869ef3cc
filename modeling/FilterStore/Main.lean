import FilterStore.Command.Files
import FilterStore.Command.Run
import FilterStore.Gzip.Basic
import FilterStore.Json.Printer
import FilterStore.Store.Action
import FilterStore.Value.Interchange
import Std.Time.DateTime.Timestamp

/-!
# The program

The files an invocation is about are read from the disk, the invocation is run on them, and those
that have changed are written back.
-/

/-! ## Databases as text

Between two runs of the program a database is a text: a line that says that it is one, and a JSON
document with the statement of every object, in the order of their creation, and the rows of every
table with their numbers.  The statements are run again to make the objects; the rows are put into
the tables as they are, so that no trigger sees them.

Unlike a dump, this keeps the numbers of the rows, and infinite numbers. -/

namespace FilterStore.Image

open Engine (Connection Database Row Table)

/-- The first line of the text. -/
def mark : String := "filterdb database\n"

/-- A cell as JSON; an infinite number is an object that says whether it is negative. -/
def cellJson : Cell → Json
  | .real x => if x.isInf then .object [("negative", .bool (x < 0))] else .ofFloat x
  | c => c.toJson

/-- The greatest number. -/
def infinity : Float := Float.ofBits 0x7ff0000000000000

/-- A cell of JSON. -/
def cellOfJson (json : Json) : Cell :=
  match json.member? "negative" with
  | some (.bool negative) => .real (if negative then -infinity else infinity)
  | _ => .ofJson json

/-- A row as JSON: its number, then its cells. -/
def rowJson (row : Row) : Json := .array (.number (.ofInt64 row.id) :: row.cells.map cellJson)

/-- A row of JSON. -/
def rowOfJson : Json → Option Row
  | .array (.number n :: cells) => n.int64?.map fun id => { id, cells := cells.map cellOfJson }
  | _ => none

/-- Whether a name is that of the table of the numbers that have been given. -/
def isNumbering (name : String) : Bool := Text.sameName name Database.numberingName

/-- A table as JSON: its name, then its rows. -/
def tableJson (t : Table) : Json := .array (.string t.name :: t.rows.map rowJson)

/-- A database as text.  The table of the numbers that have been given comes by itself. -/
def text (d : Database) : String :=
  let objects := d.objects.filter fun o => !isNumbering o.name
  mark ++ (Json.object
    [("objects", .array (objects.map fun o => .string o.sql)),
     ("tables", .array (d.tables.map tableJson))]).compact

/-- Puts the rows of a table into a database.  The table of the numbers that have been given may
have outlived the tables it is for. -/
def fillTable (d : Database) (table : Json) : Option Database :=
  match table with
  | .array (.string name :: rows) => do
    let rows ← rows.mapM rowOfJson
    let missing := isNumbering name && (d.table? name).isNone
    let d := if missing then d.add false (.table Database.emptyNumbering) else d
    some (d.modifyTable name fun t => { t with rows })
  | _ => none

/-- The items of a member that is an array. -/
def items? (json : Json) (name : String) : Option (List Json) :=
  match json.member? name with
  | some (.array xs) => some xs
  | _ => none

/-- Creates objects in an empty database. -/
def create (now : Calendar.Instant) (statements : List String) : Option Database :=
  let (result, c) := (statements.forM Action.batch).run (Connection.ofDatabase .empty now)
  match result with
  | .ok () => some c.database
  | .error _ => none

/-- The database a text stands for. -/
def parse? (now : Calendar.Instant) (s : String) : Option Database := do
  let document ← (Json.parse (String.ofList (s.toList.drop mark.length))).toOption
  let objects ← items? document "objects"
  let d ← create now (← objects.mapM Json.string?)
  (← items? document "tables").foldlM fillTable d

/-- Whether a text stands for a database. -/
def isMarked (s : String) : Bool := mark.toList.isPrefixOf s.toList

end FilterStore.Image

namespace FilterStore.Command

/-! ## Files as bytes

A database is kept as the text of its image, a compressed text in a compressed file, and any other
text as it is.  Bytes that are none of these are nobody's text.
-/

namespace Node

/-- The text of bytes as it was written. -/
def ofText (now : Calendar.Instant) (s : String) : Node :=
  if Image.isMarked s then
    match Image.parse? now s with
    | some d => database d
    | none => file .binary
  else file (.plain s)

/-- What bytes stand for. -/
def ofBytes (now : Calendar.Instant) (bytes : ByteArray) : Node :=
  match (Gzip.unpack? bytes).bind String.fromUTF8?, String.fromUTF8? bytes with
  | some s, _ => file (.compressed s)
  | none, some s => ofText now s
  | none, none => file .binary

/-- The bytes of a node, where they are known. -/
def bytes? : Node → Option ByteArray
  | folder => none
  | database d => some (Image.text d).toUTF8
  | file (.plain s) => some s.toUTF8
  | file (.compressed s) => some (Gzip.pack s.toUTF8)
  | file .binary => none

end Node

/-! ## The disk -/

/-- The time it is. -/
def currentInstant : IO Calendar.Instant := do
  let t ← Std.Time.Timestamp.now
  match Calendar.Instant.ofUnix? t.toSecondsSinceUnixEpoch.val 0 with
  | some instant => pure instant
  | none => throw (IO.userError "the clock is out of range")

/-- What the disk holds under a path. -/
def readNode (now : Calendar.Instant) (path : String) : IO (Option Node) := do
  let place := (← IO.currentDir) / path
  if ← place.isDir then pure (some .folder)
  else if ← place.pathExists then pure (some (.ofBytes now (← IO.FS.readBinFile place)))
  else pure none

/-- Reads what is under a path and what is on the way to it. -/
def readPath (now : Calendar.Instant) (files : Files) (path : String) : IO Files := do
  let route := Route.ofPath path
  (route.onTheWay ++ [route]).foldlM
    (fun files r => do
      if r.names.isEmpty then pure files
      else
        match ← readNode now r.path with
        | some n => pure (files.put r n)
        | none => pure files)
    files

/-- Writes what is under a path, if it has changed. -/
def writePath (before after : Files) (path : String) : IO Unit := do
  let route := Route.ofPath path
  match (after.at? route).bind Node.bytes? with
  | none => pure ()
  | some bytes =>
    if (before.at? route).bind Node.bytes? == some bytes then pure ()
    else IO.FS.writeBinFile ((← IO.currentDir) / route.path) bytes

/-- Prints what the program says. -/
def report (o : Outcome) : IO UInt32 := do
  IO.print o.out
  IO.eprint o.err
  pure o.code.toUInt32

/-- Runs the program on the disk. -/
def runOnDisk (args : List String) : IO UInt32 := do
  match Invocation.ofArguments args with
  | .error ending => report ending.outcome
  | .ok i =>
    let now ← currentInstant
    let files ← i.paths.foldlM (readPath now) .empty
    let database := i.databasePaths now files
    let files ← database.foldlM (readPath now) files
    let (outcome, after) := runProgram args now files
    (i.paths ++ database).forM (writePath files after)
    report outcome

end FilterStore.Command

def main (args : List String) : IO UInt32 := FilterStore.Command.runOnDisk args
