import FilterStore.Engine.Preparation
import FilterStore.Engine.Transaction

/-!
# Changing the schema

A name that is taken is an error, unless the statement says that it does not mind.  An index, and a
trigger, need the table they belong to; triggers in place of a change belong to views, all others to
tables.  With a table go its indexes and triggers.

A column can be added if every row can be given a cell for it: a column that requires one needs a
default, and the default must be a constant, unless there are no rows yet.  Whether there are is
found out by a query, and the statement is left with the heading of that query and no rows.

A table that others refer to is emptied before it is dropped, and no row may then be left dangling.

The engine's own tables can be read, but not dropped, altered, indexed or given triggers.  The table
of the numbers that tables have given to rows is created with the first table that needs it.
-/

namespace FilterStore.Engine

open Sql (Column ColumnName Creation Definition Expr Fault Mention ObjectKind TableParts TriggerTime
  WrittenExpr haveParameters)
open Text (sameName)

/-- The beginning of the names the engine keeps to itself. -/
def reservedStart : String := "sqlite_"

/-- Whether a name is one the engine keeps to itself. -/
def isReserved (name : String) : Bool :=
  reservedStart.toList.isPrefixOf (Text.lower name).toList

/-- Refuses the names the engine keeps to itself. -/
def checkName (name : String) : Except Fault Unit :=
  if isReserved name then .error (.reservedName name) else .ok ()

/-- Whether an expression needs no row, no parameter and no function. -/
def isConstant : Expr → Bool
  | .literal _ => true
  | .column name => name.isTruth
  | .negate e | .plus e | .cast e _ => isConstant e
  | _ => false

/-- Whether an expression is null as it is written. -/
def isNullLiteral : Expr → Bool
  | .literal c => same c .null
  | _ => false

/-- What a trigger's time is called. -/
def timeLabel : TriggerTime → String
  | .before => "BEFORE"
  | .after => "AFTER"
  | .insteadOf => "INSTEAD OF"

/-- What a table with rows has against a column that is added to it. -/
def objections (foreignKeys : Bool) (column : Column) (parts : TableParts) : List Fault :=
  let value := column.default.filter fun e => !isNullLiteral e.expr
  let constant := (value.map fun e => isConstant e.expr).getD true
  [(foreignKeys && !parts.references.isEmpty && value.isSome,
      "REFERENCES column with non-NULL default value"),
    (column.notNull && value.isNone, "NOT NULL column with default value NULL"),
    (!constant, "column with non-constant default")].filterMap fun (found, reason) =>
      if found then some (.columnAdded reason) else none

/-- The heading of the query that looks for rows against a column that is added. -/
def objectionHeading (fault : Fault) : String := "raise(ABORT,'" ++ fault.text ++ "')"

/-- The heading of the query that looks for rows that do not fulfil conditions any more. -/
def conditionHeading : String :=
  "CASE WHEN quick_check GLOB 'CHECK*' THEN raise(ABORT,'CHECK constraint failed')" ++
    " WHEN quick_check GLOB 'non-* value in*' THEN raise(ABORT,'type mismatch on DEFAULT')" ++
    " ELSE raise(ABORT,'NOT NULL constraint failed') END"

/-- The heading that is left of the queries about a column that is added, if there are any. -/
def additionHeadings (objections : List Fault) (parts : TableParts) : List String :=
  let queries :=
    objections.map objectionHeading ++ (if parts.checks.isEmpty then [] else [conditionHeading])
  queries.take 1

namespace Database

/-- The objects of a schema. -/
def schema (d : Database) (temporary : Bool) : List SchemaObject :=
  if temporary then d.temporary else d.objects

/-- The object of one of several kinds that has a name in a schema. -/
def objectIn? (d : Database) (temporary : Bool) (kinds : List ObjectKind) (name : String) :
    Option SchemaObject :=
  (d.schema temporary).find? fun o => kinds.contains o.kind && sameName o.name name

/-- Whether there is an index of a name. -/
def hasIndex (d : Database) (name : String) : Bool := (d.object? [.index] name).isSome

end Database

namespace Table

/-- A name in double quotes that is no column of a table is a text. -/
def columnOrText (t : Table) (c : ColumnName) : Expr :=
  if c.quoted && (t.columnIndex? c.name).isNone then .literal (.text c.name) else .column c

/-- A term of an index of a table, which is a column only if the table has it. -/
def indexTerm (t : Table) : Expr → Expr
  | .column c => t.columnOrText c
  | .collate (.column c) collation => .collate (t.columnOrText c) collation
  | e => e

end Table

namespace Step

/-- Adds an object. -/
def addObject (temporary : Bool) (o : SchemaObject) : Step Unit :=
  modify fun c => { c with database := c.database.add temporary o }

/-- Whether the name of a new table or view is free. -/
def nameIsFree (n : Creation) : Step Bool := do
  let d := (← get).database
  Step.ofExcept (checkName n.name)
  match d.objectIn? n.temporary [.table, .view] n.name with
  | some o =>
    if n.ifNotExists then pure false
    else stop (.alreadyExists o.kind n.mention.written (some n.mention.offset))
  | none =>
    if (d.objectIn? n.temporary [.index] n.name).isSome then stop (.nameTaken .index n.name)
    else pure true

/-- Creates the table of the numbers that have been given, unless it is there. -/
def createNumbering : Step Unit := do
  if ((← get).database.table? Database.numberingName).isNone then
    addObject false (.table Database.emptyNumbering)

/-- Creates a table. -/
def createTable (n : Creation) (parts : TableParts) (text rest : String) : Step Unit := do
  if ← nameIsFree n then
    match parts.flaw with
    | some fault => stop fault
    | none => pure ()
    let t : Table := { name := n.name, parts, text, rest, rows := [] }
    let w := (← get).world [] .check
    parts.checks.forM fun check =>
      Step.ofExcept (checkExpr w [t.relation.shape n.name] false check.expr)
    addObject n.temporary (.table t)
    if t.isLasting then createNumbering

/-- Whether a name is that of a table of the engine's own. -/
def isOwn (name : String) : Step Bool := do
  let d := (← get).database
  pure (isReserved name && (d.tableRelation? name).isSome)

/-- How a table of the engine's own is reported. -/
def ownName (name : String) : String :=
  if Database.masterNames.any (sameName name) then "sqlite_master"
  else if Database.temporaryNames.any (sameName name) then "sqlite_temp_master"
  else Text.lower name

/-- The table that a column is added to. -/
def alteredTable (name : String) : Step Table := do
  let d := (← get).database
  if (d.view? name).isSome then stop (.columnAdded "column to a view")
  if ← isOwn name then stop (.notAlterable (ownName name))
  Step.table name

/-- Checks the conditions of an added column on the rows of its table. -/
def requireConditions (t : Table) (checks : List WrittenExpr) : Step Unit := do
  let w := (← get).world [] .check
  checks.forM fun check =>
    Step.ofExcept ((checkExpr w [t.relation.shape t.name] false check.expr).mapError fun fault =>
      .tableWithColumn t.name fault.text)
  checks.forM fun check => t.rows.forM fun row => do
    if ← Step.ofExcept (isBroken w [t.frame row] check.expr) then stop .rowsAgainstColumn

/-- Adds a column to a table; its rows get the default.  Answers the headings that are left of the
queries about the rows. -/
def addColumn (table : String) (column : Column) (parts : TableParts) (text : String) :
    Step (List String) := do
  let t ← alteredTable table
  if (t.columnIndex? column.name).isSome then stop (.duplicateColumn column.name)
  match parts.flaw with
  | some fault => stop fault
  | none => pure ()
  match parts.keys with
  | key :: _ =>
    stop (.columnAdded (if key.primary then "PRIMARY KEY column" else "UNIQUE column"))
  | [] => pure ()
  let against := objections (← get).foreignKeys column parts
  match against with
  | fault :: _ => if !t.rows.isEmpty then stop fault
  | [] => pure ()
  let cell ← Step.ofExcept (Table.defaultCell (← Step.world []) column)
  Step.modifyTable table fun t =>
    { t with
      parts :=
        { t.parts with
          columns := t.parts.columns ++ [column]
          references := t.parts.references ++ parts.references
          checks := t.parts.checks ++ parts.checks }
      text := t.text ++ ", " ++ text
      rows := t.rows.map fun row => { row with cells := row.cells ++ [cell] } }
  requireConditions (← Step.table table) parts.checks
  pure (additionHeadings against parts)

/-- The table an index belongs to. -/
def indexedTable (name : String) : Step Table := do
  let d := (← get).database
  if (d.view? name).isSome then stop .viewIndexed
  if ← isOwn name then stop (.notIndexable (ownName name))
  match d.table? name with
  | some t => pure t
  | none => stop (.noSuchTable name true)

/-- Fails if some rows have the same values in an index. -/
def requireDistinct (w : World) (t : Table) (u : Uniqueness) : List Row → Step Unit
  | [] => pure ()
  | row :: rest => do
    match ← Step.ofExcept (u.rival? w t row rest) with
    | some _ => stop (.unique u.primary u.labels)
    | none => requireDistinct w t u rest

/-- Checks the terms of an index one after the other.  They see no numbers of rows. -/
def checkTerms (w : World) (t : Table) (before : Option Fault) : List Expr → Except Fault Unit
  | [] => .ok ()
  | e :: rest => do
    let shape := { t.relation.shape t.name with numbered := false }
    (searchExpr w [shape] false before e).result
    checkCollations e
    checkTerms w t none rest

/-- Checks what an index is made of.  Its condition comes first, but what is wrong with it is only
reported behind the first term. -/
def checkIndex (c : Connection) (t : Table) (i : Index) : Except Fault Unit :=
  let before := i.condition.bind fun e =>
    (searchExpr (c.world [] .indexCondition) [t.relation.shape t.name] false none e).fault
  checkTerms (c.world [] .indexTerm) t before i.terms

/-- Creates an index. -/
def createIndex (ifNotExists : Bool) (i : Index) : Step Unit := do
  let t ← indexedTable i.table
  Step.ofExcept (checkName i.name)
  let d := (← get).database
  if (d.object? [.table, .view] i.name).isSome then stop (.nameTaken .table i.name)
  if d.hasIndex i.name then
    if !ifNotExists then stop (.alreadyExists .index i.name none)
  else
    Step.ofExcept (checkIndex (← get) t i)
    let i := { i with table := t.name, terms := i.terms.map t.indexTerm }
    if i.unique then requireDistinct (← Step.world []) t (t.indexUniqueness i) t.rows
    addObject (d.isTemporary t.name) (.index i)

/-- The table or view a trigger belongs to. -/
def triggeredObject (table : String) : Step (Option SchemaObject) := do
  let d := (← get).database
  match d.object? [.table, .view] table with
  | some o => pure (some o)
  | none => if ← isOwn table then pure none else stop (.noSuchTable table true)

/-- Creates a trigger. -/
def createTrigger (n : Creation) (g : Trigger) : Step Unit := do
  let d := (← get).database
  let owner ← triggeredObject g.table
  let temporary := n.temporary || d.isTemporary g.table
  Step.ofExcept (checkName g.name)
  if (d.objectIn? temporary [.trigger] g.name).isSome then
    if !n.ifNotExists then
      stop (.alreadyExists .trigger n.mention.written (some n.mention.offset))
  else if isReserved g.table then stop .systemTrigger
  else
    let kind := (owner.map SchemaObject.kind).getD .table
    if decide (kind = .view) != decide (g.time = .insteadOf) then
      stop (.triggerTime (timeLabel g.time) kind g.table)
    if haveParameters (g.condition :: g.body.flatMap Sql.Change.exprs) then stop .parametersInTrigger
    addObject temporary (.trigger g)

/-- Creates a view. -/
def createView (n : Creation) (v : View) : Step Unit := do
  if haveParameters [.hasRows v.query] then stop .parametersInView
  if ← nameIsFree n then addObject n.temporary (.view v)

/-- Empties a table that others refer to, so that no row is left dangling.  No trigger of the table
runs. -/
def empty (t : Table) : Step Unit := do
  t.rows.forM fun row => do
    leave .displace t row
    removeRow t.name row.id
    follow nestingLimit [] none .after .displace t (some row) none
  requireSettled false
  modify fun c => { c with changes := t.rows.length }

/-- Whether a table has to be emptied before it is dropped: others refer to it, or rows are owed
later, possibly its own. -/
def mustBeEmptied (t : Table) : Step Bool := do
  let c ← get
  let own := c.owedLater ≠ 0 && t.parts.references.any fun r => r.deferred
  pure (c.foreignKeys && (!(c.database.referencesTo t).isEmpty || own))

/-- Forgets the numbers that a table has given. -/
def forgetNumbers (t : Table) : Step Unit := do
  if t.isLasting then
    Step.modifyTable Database.numberingName fun numbers =>
      { numbers with
        rows := numbers.rows.filter fun r => !same (r.cells.headD .null) (.text t.name) }

/-- Removes a table or a view with what belongs to it. -/
def removeOwner (name : String) : Step Unit :=
  modify fun c =>
    let d := c.database
    let belongs := fun (o : SchemaObject) => sameName o.tableName name
    let temporary := d.temporary.filter fun o => !belongs o
    let hidden := d.temporary.any fun o => sameName o.name name && o.kind != .trigger
    let objects := if hidden then d.objects else d.objects.filter fun o => !belongs o
    { c with database := ⟨objects, temporary⟩ }

/-- Drops an object that triggers and indexes may belong to, with all of them. -/
def dropOwner (kind : ObjectKind) (ifExists : Bool) (name : String) : Step Unit := do
  let d := (← get).database
  if ← isOwn name then stop (.notDroppable (ownName name))
  match d.object? [.table, .view] name with
  | none => if ifExists then pure () else stop (.noSuchObject kind name)
  | some o =>
    if o.kind ≠ kind then stop (.wrongKind o.kind o.name)
    match o with
    | .table t =>
      Step.ofExcept ((← get).checkEmptying t)
      if ← mustBeEmptied t then empty t
      forgetNumbers t
    | _ => pure ()
    removeOwner name

/-- Drops an object that nothing belongs to. -/
def dropSingle (kind : ObjectKind) (ifExists : Bool) (name : String) : Step Unit := do
  let d := (← get).database
  let dropped := fun (o : SchemaObject) => o.kind == kind && sameName o.name name
  if d.temporary.any dropped then
    modify fun c =>
      { c with database := ⟨d.objects, d.temporary.filter fun o => !dropped o⟩ }
  else if d.objects.any dropped then
    modify fun c => { c with database := d.remove dropped }
  else if ifExists then pure ()
  else stop (.noSuchObject kind name)

/-- A step that has no rows to give. -/
def silent (step : Step Unit) : Step (List String) := do
  step
  pure []

/-- Changes the schema.  Answers the headings of the rows that the statement could give, though it
never gives any. -/
def define : Definition → Step (List String)
  | .addColumn table column parts text => addColumn table column parts text
  | .createTable n parts text rest => silent (createTable n parts text rest)
  | .createIndex ifNotExists unique name table terms condition text =>
    silent (createIndex ifNotExists { name, table, unique, terms, condition, text })
  | .createTrigger n table time event condition body text =>
    silent (createTrigger n { name := n.name, table, time, event, condition, body, text })
  | .createView n columns query text =>
    silent (createView n { name := n.name, columns, query, text })
  | .dropTable ifExists name => silent (dropOwner .table ifExists name)
  | .dropIndex ifExists name => silent (dropSingle .index ifExists name)
  | .dropTrigger ifExists name => silent (dropSingle .trigger ifExists name)
  | .dropView ifExists name => silent (dropOwner .view ifExists name)

end Step

end FilterStore.Engine
