import FilterStore.Migration.Run
import FilterStore.Store.Action

/-!
# The version table

Versions are recorded in a table with one row a version, which also says when it was applied.  The
version of the schema is the greatest one.  A greatest version that is missing, negative or no
integer is of no use.
-/

namespace FilterStore.VersionTable

open Engine (Connection Work)
open Sql (EngineError Fault)

/-- Asks for the greatest version. -/
def greatestSql (table : String) : String := "SELECT MAX(version) FROM " ++ table

/-- Asks for all versions. -/
def versionsSql (table : String) : String :=
  "SELECT version FROM " ++ table ++ " WHERE version IS NOT NULL ORDER BY version"

/-- Creates the table. -/
def createSql (table : String) : String :=
  "CREATE TABLE IF NOT EXISTS " ++ table ++ " (version INTEGER PRIMARY KEY, " ++
    "applied INTEGER NOT NULL DEFAULT (CAST(strftime('%s', 'now') AS INTEGER)))"

/-- Records a version. -/
def insertSql (table : String) : String := "INSERT INTO " ++ table ++ " (version) VALUES (?1)"

/-- Drops the table. -/
def dropSql (table : String) : String := "DROP TABLE IF EXISTS " ++ table

/-- What the greatest version says. -/
def recordedOf : Cell → Recorded
  | .integer n => if 0 ≤ n then .version n else .unusable
  | _ => .unusable

/-- What a connection's database records. -/
def recorded (table : String) (c : Connection) : Except Failure Recorded :=
  match ((Work.query (.text (greatestSql table))) c).1 with
  | .ok answer => .ok (recordedOf answer.first)
  | .error e => if e.missesTable then .ok .missing else .error (.engine e)

/-- Versions recorded in a table of a connection's database. -/
def ledger (table : String) : Ledger Connection where
  recorded := recorded table
  create := Action.batch (createSql table)
  append version := do
    let _ ← Action.query ⟨insertSql table, [.integer version]⟩
  drop := Action.batch (dropSql table)
  bounds := Action.bounds

/-- What the kind of a cell is called where another one was wanted. -/
def kindLabel : Cell → String
  | .null => "Null"
  | .integer _ => "Integer"
  | .real _ => "Real"
  | .text _ => "Text"
  | .blob _ => "Blob"

/-- A cell as a version. -/
def versionOf (sql : String) : Cell → Except Failure Int64
  | .integer n => .ok n
  | c =>
    .error (.engine
      { fault := .columnType (kindLabel c) 0 "version", source := sql, sql := some sql })

/-- The versions a connection's database records, from the least; none without a table. -/
def versions (table : String) (c : Connection) : Except Failure (List Int64) :=
  let sql := versionsSql table
  match ((Work.query (.text sql)) c).1 with
  | .ok answer => answer.rows.mapM fun row => versionOf sql (row.headD .null)
  | .error e => if e.missesTable then .ok [] else .error (.engine e)

end FilterStore.VersionTable
