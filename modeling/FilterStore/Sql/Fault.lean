import FilterStore.Text.Letter

/-!
# What the engine reports

A *fault* is why a statement could not be read, prepared or run.  An *engine error* is a fault with
the statement it belongs to.  The engine gives most faults a number; where it can point at a place
in the statement it gives the place in bytes instead.
-/

namespace FilterStore.Sql

/-- Things with a name of their own in a schema. -/
inductive ObjectKind
  | table
  | index
  | trigger
  | view
  deriving DecidableEq, Repr

def ObjectKind.label : ObjectKind → String
  | table => "table"
  | index => "index"
  | trigger => "trigger"
  | view => "view"

/-- How much is undone when a statement fails. -/
inductive Undo
  /-- What the statement did before stays. -/
  | nothing
  | statement
  | transaction
  deriving DecidableEq, Repr

/-- Why a statement failed. -/
inductive Fault
  /-- The text ends inside a statement. -/
  | incomplete
  | unexpected (token : String) (offset : Nat)
  | unrecognized (token : String) (offset : Nat)
  /-- The digits of a number are not separated as they may be. -/
  | badNumeral (token : String)
  | hexTooBig (numeral : String) (offset : Nat)
  | parameterNumber (offset : Nat)
  /-- In a definition of the database the table is reported with the name of the database. -/
  | noSuchTable (name : String) (qualified : Bool)
  /-- All columns are selected of nothing. -/
  | noTables
  | noSuchColumn (name : String) (offset : Option Nat)
  | noSuchFunction (name : String) (offset : Option Nat)
  | noSuchCollation (name : String)
  | wrongArguments (function : String) (offset : Option Nat)
  /-- A function of a group stands where there is no group, or where the group is not there yet. -/
  | misusedAggregate (early : Bool) (function : String) (offset : Option Nat)
  /-- Something stands in a place where only some expressions may stand. -/
  | prohibited (what place : String) (offset : Option Nat)
  | parametersInView
  | parametersInTrigger
  | noSuchObject (kind : ObjectKind) (name : String)
  | wrongKind (kind : ObjectKind) (name : String)
  | notChangeable (view : String)
  | notWritable (table : String)
  | noColumnNamed (table column : String)
  | valueCount (table : String) (columns values : Nat)
  | valuesForColumns (values columns : Nat)
  | unequalRows
  | selectWidth (found : Nat)
  | duplicateColumn (name : String)
  | twoPrimaryKeys (table : String)
  | variableDefault (column : String)
  | keyExpression
  | lastingKey
  | conflictingClauses
  | alreadyExists (kind : ObjectKind) (name : String) (offset : Option Nat)
  | nameTaken (kind : ObjectKind) (name : String)
  | reservedName (name : String)
  | columnAdded (reason : String)
  /-- A row would not fulfil the condition of an added column. -/
  | rowsAgainstColumn
  /-- A table could not be read any more with an added column. -/
  | tableWithColumn (table reason : String)
  | notAlterable (table : String)
  | notDroppable (table : String)
  | notIndexable (table : String)
  | systemTrigger
  /-- The time of a trigger does not go with what it belongs to. -/
  | triggerTime (time : String) (kind : ObjectKind) (name : String)
  | viewIndexed
  /-- A view is a query of itself. -/
  | circularView (name : String)
  | viewWidth (name : String) (named found : Nat)
  | referenceMismatch (child parent : String)
  | referenceSize
  | unknownReferring (column : String)
  | notNull (table column : String)
  | unique (primary : Bool) (columns : List String)
  | rowNumberTaken (table : String)
  | check (name : String)
  | foreignKey
  | datatypeMismatch
  | raised (undo : Undo) (message : String)
  /-- A trigger's error stands outside of a trigger. -/
  | raisedOutside
  /-- A trigger asks to leave the row out. -/
  | rowIgnored
  | integerOverflow
  /-- Too many statements follow from one another. -/
  | tooDeep
  /-- There are no numbers left for rows. -/
  | full
  /-- A transaction is begun inside of another. -/
  | nestedTransaction
  /-- There is no transaction to be ended in a way. -/
  | noTransaction (ending : String)
  | noSuchMark (name : String)
  /-- A change of a database that can only be read. -/
  | readOnly
  /-- An escape character is no character. -/
  | escapeSize
  /-- A condition on groups stands where there are none. -/
  | havingMisplaced
  /-- A function of a group stands among the terms by which rows are grouped. -/
  | groupedTerm
  /-- A term of an order or of groups, which are told apart by a word, names a place where there is
  no column. -/
  | placeOutside (ordinal : Nat) (word : String) (width : Nat) (offset : Option Nat)
  /-- A test that only tables of texts know. -/
  | matchMisused
  /-- A pattern is no text. -/
  | patternType
  | pattern (message : String)
  | severalStatements
  | parameterCount (got needed : Nat)
  | noStatement
  | columnType (found : String) (index : Nat) (name : String)
  | cannotOpen (path : String)
  /-- A database is on a machine that is not this one. -/
  | badAuthority (machine : String)
  /-- A database is to be opened in a way that there is not. -/
  | noSuchMode (kind mode : String)
  | noSuchSystem (name : String)
  /-- What was opened is a file of another kind. -/
  | notDatabase
  deriving DecidableEq, Repr

namespace Fault

/-- The number the engine gives a fault.  Faults that are found around the engine have none. -/
def number : Fault → Option Nat
  | notNull .. => some 1299
  | unique true _ => some 1555
  | unique false _ => some 2067
  | rowNumberTaken _ => some 2579
  | check _ => some 275
  | foreignKey => some 787
  | datatypeMismatch => some 20
  | raised .. => some 1811
  | noSuchCollation _ => some 257
  | full => some 13
  | readOnly => some 8
  | noStatement => some 21
  | cannotOpen _ => some 14
  | notDatabase => some 26
  | severalStatements | parameterCount .. | columnType .. => none
  | _ => some 1

/-- Where in its statement a fault is, if the engine can tell. -/
def offset? : Fault → Option Nat
  | unexpected _ n | unrecognized _ n | hexTooBig _ n | parameterNumber n => some n
  | noSuchColumn _ n | noSuchFunction _ n | wrongArguments _ n | misusedAggregate _ _ n
  | prohibited _ _ n | alreadyExists _ _ n | placeOutside _ _ _ n => n
  | _ => none

/-- A fault as it is reported of a trigger or a view: the statement at hand has no place for it. -/
def inDefinition : Fault → Fault
  | noSuchTable name _ => noSuchTable name true
  | noSuchColumn name _ => noSuchColumn name none
  | noSuchFunction name _ => noSuchFunction name none
  | wrongArguments name _ => wrongArguments name none
  | misusedAggregate early name _ => misusedAggregate early name none
  | placeOutside ordinal word width _ => placeOutside ordinal word width none
  | fault => fault

/-- An ordinal number. -/
def ordinalText (n : Nat) : String :=
  let ending :=
    if n / 10 % 10 = 1 then "th"
    else
      match n % 10 with
      | 1 => "st"
      | 2 => "nd"
      | 3 => "rd"
      | _ => "th"
  toString n ++ ending

/-- The wording of a fault. -/
def text : Fault → String
  | incomplete => "incomplete input"
  | unexpected token _ => "near \"" ++ token ++ "\": syntax error"
  | unrecognized token _ => "unrecognized token: \"" ++ token ++ "\""
  | badNumeral token => "unrecognized token: \"" ++ token ++ "\""
  | hexTooBig numeral _ => "hex literal too big: " ++ numeral
  | parameterNumber _ => "variable number must be between ?1 and ?32766"
  | noSuchTable name qualified => "no such table: " ++ (if qualified then "main." else "") ++ name
  | noTables => "no tables specified"
  | noSuchColumn name _ => "no such column: " ++ name
  | noSuchFunction name _ => "no such function: " ++ name
  | noSuchCollation name => "no such collation sequence: " ++ name
  | wrongArguments function _ => "wrong number of arguments to function " ++ function ++ "()"
  | misusedAggregate true function _ => "misuse of aggregate: " ++ function ++ "()"
  | misusedAggregate false function _ => "misuse of aggregate function " ++ function ++ "()"
  | prohibited what place _ => what ++ " prohibited in " ++ place
  | parametersInView => "parameters are not allowed in views"
  | parametersInTrigger => "trigger cannot use variables"
  | noSuchObject kind name => "no such " ++ kind.label ++ ": " ++ name
  | wrongKind kind name =>
    "use DROP " ++ Text.upper kind.label ++ " to delete " ++ kind.label ++ " " ++ name
  | notChangeable view => "cannot modify " ++ view ++ " because it is a view"
  | notWritable table => "table " ++ table ++ " may not be modified"
  | noColumnNamed table column => "table " ++ table ++ " has no column named " ++ column
  | valueCount table columns values =>
    "table " ++ table ++ " has " ++ toString columns ++ " columns but " ++ toString values ++
      " values were supplied"
  | valuesForColumns values columns =>
    toString values ++ " values for " ++ toString columns ++ " columns"
  | unequalRows => "all VALUES must have the same number of terms"
  | selectWidth found => "sub-select returns " ++ toString found ++ " columns - expected 1"
  | duplicateColumn name => "duplicate column name: " ++ name
  | twoPrimaryKeys table => "table \"" ++ table ++ "\" has more than one primary key"
  | variableDefault column => "default value of column [" ++ column ++ "] is not constant"
  | keyExpression => "expressions prohibited in PRIMARY KEY and UNIQUE constraints"
  | lastingKey => "AUTOINCREMENT is only allowed on an INTEGER PRIMARY KEY"
  | conflictingClauses => "conflicting ON CONFLICT clauses specified"
  | alreadyExists kind name _ => kind.label ++ " " ++ name ++ " already exists"
  | nameTaken .index name => "there is already an index named " ++ name
  | nameTaken kind name => "there is already a " ++ kind.label ++ " named " ++ name
  | reservedName name => "object name reserved for internal use: " ++ name
  | columnAdded reason => "Cannot add a " ++ reason
  | rowsAgainstColumn => "CHECK constraint failed"
  | tableWithColumn table reason =>
    "error in table " ++ table ++ " after add column: " ++ reason
  | notAlterable table => "table " ++ table ++ " may not be altered"
  | notDroppable table => "table " ++ table ++ " may not be dropped"
  | notIndexable table => "table " ++ table ++ " may not be indexed"
  | systemTrigger => "cannot create trigger on system table"
  | triggerTime time kind name =>
    "cannot create " ++ time ++ " trigger on " ++ kind.label ++ ": " ++ name
  | viewIndexed => "views may not be indexed"
  | circularView name => "view " ++ name ++ " is circularly defined"
  | viewWidth name named found =>
    "expected " ++ toString named ++ " columns for '" ++ name ++ "' but got " ++ toString found
  | referenceMismatch child parent =>
    "foreign key mismatch - \"" ++ child ++ "\" referencing \"" ++ parent ++ "\""
  | referenceSize =>
    "number of columns in foreign key does not match the number of columns in the referenced table"
  | unknownReferring column => "unknown column \"" ++ column ++ "\" in foreign key definition"
  | notNull table column => "NOT NULL constraint failed: " ++ table ++ "." ++ column
  | unique _ columns => "UNIQUE constraint failed: " ++ ", ".intercalate columns
  | rowNumberTaken table => "UNIQUE constraint failed: " ++ table ++ ".rowid"
  | check name => "CHECK constraint failed: " ++ name
  | foreignKey => "FOREIGN KEY constraint failed"
  | datatypeMismatch => "datatype mismatch"
  | raised _ message => message
  | raisedOutside => "RAISE() may only be used within a trigger-program"
  | rowIgnored => "row ignored"
  | integerOverflow => "integer overflow"
  | tooDeep => "too many levels of trigger recursion"
  | full => "database or disk is full"
  | nestedTransaction => "cannot start a transaction within a transaction"
  | noTransaction ending => "cannot " ++ ending ++ " - no transaction is active"
  | noSuchMark name => "no such savepoint: " ++ name
  | readOnly => "attempt to write a readonly database"
  | escapeSize => "ESCAPE expression must be a single character"
  | havingMisplaced => "HAVING clause on a non-aggregate query"
  | groupedTerm => "aggregate functions are not allowed in the GROUP BY clause"
  | placeOutside ordinal word width _ =>
    ordinalText ordinal ++ " " ++ word ++ " BY term out of range - should be between 1 and " ++
      toString width
  | matchMisused => "unable to use function MATCH in the requested context"
  | patternType => "Invalid type"
  | pattern message => message
  | severalStatements => "Multiple statements provided"
  | parameterCount got needed =>
    "Wrong number of parameters passed to query. Got " ++ toString got ++ ", needed " ++
      toString needed
  | noStatement => "bad parameter or other API misuse"
  | columnType found index name =>
    "Invalid column type " ++ found ++ " at index: " ++ toString index ++ ", name: " ++ name
  | cannotOpen path => "unable to open database file: " ++ path
  | badAuthority machine => "invalid uri authority: " ++ machine
  | noSuchMode kind mode => "no such " ++ kind ++ " mode: " ++ mode
  | noSuchSystem name => "no such vfs: " ++ name
  | notDatabase => "file is not a database"

end Fault

/-- A failure of the engine. -/
structure EngineError where
  fault : Fault
  /-- The text that was being prepared; places count from its start. -/
  source : String
  /-- The statement that was executing, where it is known. -/
  sql : Option String
  deriving DecidableEq, Repr

namespace EngineError

/-- The engine's number.  A fault with a place has none. -/
def number (e : EngineError) : Option Nat :=
  if e.fault.offset?.isSome then none else e.fault.number

/-- What happened, and where in the statement if the engine can tell. -/
def message (e : EngineError) : String :=
  match e.fault.offset? with
  | some n => e.fault.text ++ " in " ++ e.source ++ " at offset " ++ toString n
  | none => e.fault.text

/-- Whether the message says that a table is missing. -/
def missesTable (e : EngineError) : Bool :=
  Text.occursIn "no such table".toList e.message.toList

/-- How the error is shown. -/
def display (e : EngineError) : String :=
  let head :=
    match e.number with
    | some n => "engine error " ++ toString n ++ ": "
    | none => "engine error: "
  let tail :=
    match e.sql with
    | some sql => " (while executing: " ++ sql ++ ")"
    | none => ""
  head ++ e.message ++ tail

end EngineError

end FilterStore.Sql
