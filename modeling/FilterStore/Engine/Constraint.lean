import FilterStore.Engine.Connection

/-!
# Storing a row

A row is stored if its required cells are there, its conditions hold, its number is free, and the
values that may occur once do not occur in another row.  They are looked at in this order: the
newest index first, then the keys of the table from the last one backwards, but keys that push rows
out of their way come after all others.

What becomes of a row that may not be stored is said by the statement, or else by the constraint
that it does not fulfil; otherwise the statement fails.  A required cell that is missing, and a
condition that does not hold, cannot be pushed out of the way; for a missing cell the default of its
column is taken.
-/

namespace FilterStore.Engine

open Sql (Collation Column Conflict Expr Fault Key KeyColumn Reference WrittenExpr)
open Text (sameName)

/-! ## What is owed to references

Every row that comes to dangle is owed to its reference, and is not owed any more when it goes or
when its parent comes.  So a row that dangled before anyone looked is owed to nobody, and where
nothing is owed nothing can be settled.
-/

namespace Step

/-- How many rows are owed, now or later. -/
def owed (later : Bool) : Step Int := do
  let c ← get
  pure (if later then c.owedLater else c.owedNow)

/-- Owes more rows, or fewer. -/
def owe (later : Bool) (n : Int) : Step Unit :=
  modify fun c =>
    if later then { c with owedLater := c.owedLater + n } else { c with owedNow := c.owedNow + n }

/-- The parent of a reference with its key. -/
def parentOf (r : Reference) : Step (Option (Table × List String)) := do
  let d := (← get).database
  pure do
    let parent ← d.table? r.table
    let key ← d.parentColumns? parent r
    some (parent, key)

/-- A row leaves the parent it refers to. -/
def leaveParent (row : Row) (reference : Table × Reference) : Step Unit := do
  let (child, r) := reference
  match ← parentOf r with
  | none => pure ()
  | some (parent, key) =>
    if (← owed r.deferred) ≠ 0 && dangles child parent r key parent.rows row then
      owe r.deferred (-1)

/-- A row comes to refer to a parent, which may be itself. -/
def joinParent (row : Row) (reference : Table × Reference) : Step Unit := do
  let (child, r) := reference
  match ← parentOf r with
  | none => pure ()
  | some (parent, key) =>
    let targets := if sameName parent.name child.name then row :: parent.rows else parent.rows
    if dangles child parent r key targets row then owe r.deferred 1

/-- How many other rows refer to a row of a table. -/
def referring (t : Table) (row : Row) (reference : Table × Reference) : Step Nat := do
  let (child, r) := reference
  let d := (← get).database
  match d.parentColumns? t r, d.table? child.name with
  | some key, some child =>
    let others :=
      if sameName t.name child.name then child.rows.filter fun other => other.id ≠ row.id
      else child.rows
    pure (others.filter fun other => refersTo child t r key other row).length
  | _, _ => pure 0

/-- A row leaves those that refer to it. -/
def leaveChildren (t : Table) (row : Row) (reference : Table × Reference) : Step Unit := do
  let n ← referring t row reference
  owe reference.2.deferred n

/-- A row comes that others may refer to. -/
def joinChildren (t : Table) (row : Row) (reference : Table × Reference) : Step Unit := do
  if (← owed reference.2.deferred) ≠ 0 then
    let n ← referring t row reference
    owe reference.2.deferred (-n)

/-- Settles what a row leaves behind that goes, or gets other cells. -/
def leave (event : Event) (t : Table) (row : Row) : Step Unit := do
  let c ← get
  if c.foreignKeys then
    (c.database.settledOwn t event).forM (leaveParent row)
    (c.database.touchedOthers t event).forM (leaveChildren t row)

/-- Settles what a row changes by coming, or by getting its cells. -/
def join (event : Event) (t : Table) (row : Row) : Step Unit := do
  let c ← get
  if c.foreignKeys then
    (c.database.settledOwn t event).forM (joinParent row)
    (c.database.touchedOthers t event).forM (joinChildren t row)

/-- Stops if anything is owed. -/
def requireSettled (later : Bool) : Step Unit := do
  if 0 < (← owed later) then stop .foreignKey

end Step

/-! ## Storing -/

/-- Something that occurs once in a table. -/
structure Uniqueness where
  terms : List Expr
  collations : List Collation
  /-- The rows it is asked of. -/
  condition : Option Expr
  primary : Bool
  /-- What follows if it does not, if it says so. -/
  conflict : Option Conflict
  /-- What is reported. -/
  labels : List String

/-- What follows if a constraint is not fulfilled, by the rule that is given and by its own. -/
def ruleOf (given own : Option Conflict) : Conflict := (given <|> own).getD .abort

/-- What follows if a constraint is not fulfilled that cannot be pushed out of the way. -/
def firmRule (given : Option Conflict) : Conflict :=
  match ruleOf given none with
  | .replace => .abort
  | c => c

/-- A name as an expression. -/
def nameExpr (name : String) : Expr := .column { table := none, name, quoted := false, offset := 0 }

namespace Table

/-- The name of a column as it is reported, spelled as in its definition. -/
def label (t : Table) (name : String) : String :=
  t.name ++ "." ++ ((t.column? name).map Column.name).getD name

/-- What a key says. -/
def keyUniqueness (t : Table) (k : Key) : Uniqueness where
  terms := k.names.map nameExpr
  collations := k.columns.map t.keyCollation
  condition := none
  primary := k.primary
  conflict := k.conflict
  labels := k.names.map t.label

/-- What a unique index says. -/
def indexUniqueness (t : Table) (i : Index) : Uniqueness where
  terms := i.terms.map fun e => ((columnTerm? e).map fun k => nameExpr k.name).getD e
  collations := i.terms.map (exprCollation [t.relation.shape t.name])
  condition := i.condition
  primary := false
  conflict := none
  labels :=
    match i.columns? with
    | some columns => columns.map fun k => t.label k.name
    | none => ["index '" ++ i.name ++ "'"]

/-- The default of a column as the column stores it. -/
def defaultCell (w : World) (c : Column) : Except Fault Cell :=
  match c.default with
  | none => .ok .null
  | some e => do
    let cell ← eval w .value [] [] e.expr
    .ok (stored c.affinity cell)

end Table

/-- Whether something that occurs once pushes rows out of its way. -/
def Uniqueness.isPushing (u : Uniqueness) : Bool := u.conflict == some .replace

/-- All that occurs once in a table, in the order it is looked at. -/
def Database.uniquenesses (d : Database) (t : Table) : List Uniqueness :=
  let us :=
    ((d.indexesOf t.name).filter Index.unique).reverse.map t.indexUniqueness ++
      t.valueKeys.reverse.map t.keyUniqueness
  us.filter (fun u => !u.isPushing) ++ us.filter Uniqueness.isPushing

/-- The values of a row that occur once; nothing if one of them is null or the row is not asked. -/
def Uniqueness.values? (w : World) (t : Table) (u : Uniqueness) (row : Row) :
    Except Fault (Option (List Cell)) := do
  let frames := [t.frame row]
  let asked ←
    match u.condition with
    | none => pure true
    | some e => holds w frames e
  if asked then
    let cells ← evalAll w frames [] u.terms
    .ok (if cells.any (same .null) then none else some cells)
  else .ok none

/-- The first of some rows with the same values as another. -/
def Uniqueness.rival? (w : World) (t : Table) (u : Uniqueness) (row : Row) (others : List Row) :
    Except Fault (Option Row) := do
  match ← u.values? w t row with
  | none => .ok none
  | some wanted =>
    let rivals ← others.filterM fun other => do
      let found ← u.values? w t other
      .ok ((found.map (sameCells u.collations wanted)).getD false)
    .ok rivals.head?

namespace Step

/-- What becomes of a row that may not be stored. -/
def refuse {α : Type} (conflict : Conflict) (fault : Fault) : Step α :=
  if conflict = .ignore then stop .rowIgnored else throw ⟨fault, conflict.undo⟩

/-- Fills in a required cell from its default, if that is the rule. -/
def filledCell (w : World) (given : Option Conflict) (t : Table) (column : Column) (cell : Cell) :
    Step Cell :=
  if column.notNull && same cell .null then
    match ruleOf given column.onNull, column.default with
    | .replace, some _ => Step.ofExcept (Table.defaultCell w column)
    | .replace, none => refuse .abort (.notNull t.name column.name)
    | rule, _ => refuse rule (.notNull t.name column.name)
  else pure cell

/-- Checks the required cells of a row. -/
def requireCells (w : World) (given : Option Conflict) (t : Table) (row : Row) : Step Row := do
  let cells ← (t.columns.zip row.cells).mapM fun (column, cell) =>
    filledCell w given t column cell
  (t.columns.zip cells).forM fun (column, cell) =>
    if column.notNull && same cell .null then refuse .abort (.notNull t.name column.name)
    else pure ()
  pure { row with cells }

/-- Checks the conditions of a table on a row. -/
def requireChecks (w : World) (given : Option Conflict) (t : Table) (row : Row) : Step Unit :=
  t.parts.checks.forM fun check => do
    if ← Step.ofExcept (isBroken w [t.frame row] check.expr) then
      refuse (firmRule given) (.check check.text)

/-- The fault of a row whose number is taken. -/
def numberFault (t : Table) : Fault :=
  match t.rowIdColumn?.bind fun i => t.columns[i]? with
  | some column => .unique true [t.label column.name]
  | none => .rowNumberTaken t.name

/-- The rows that stay where they are beside a row with its number. -/
def besideNumber (given : Option Conflict) (t : Table) (row : Row) (others : List Row) :
    Step (List Row) :=
  if others.any fun r => r.id = row.id then
    match ruleOf given (t.rowIdKey?.bind Key.conflict) with
    | .replace => pure (others.filter fun r => r.id ≠ row.id)
    | rule => refuse rule (numberFault t)
  else pure others

/-- The rows that stay where they are beside a row with its values. -/
def besideValues (w : World) (given : Option Conflict) (t : Table) (row : Row) (others : List Row)
    (u : Uniqueness) : Step (List Row) := do
  match ← Step.ofExcept (u.rival? w t row others) with
  | none => pure others
  | some rival =>
    match ruleOf given u.conflict with
    | .replace => pure (others.filter fun r => r.id ≠ rival.id)
    | rule => refuse rule (.unique u.primary u.labels)

/-- The rows that stay where they are beside a row.  If it is the rule of the table alone that a row
with the same number is pushed out of the way, that is looked at last. -/
def beside (w : World) (given : Option Conflict) (t : Table) (row : Row) (others : List Row) :
    Step (List Row) := do
  let us := (← get).database.uniquenesses t
  if given.isNone && (t.rowIdKey?.bind Key.conflict) == some .replace then
    let staying ← us.foldlM (besideValues w given t row) others
    besideNumber given t row staying
  else
    let staying ← besideNumber given t row others
    us.foldlM (besideValues w given t row) staying

/-- Removes a row from a table. -/
def removeRow (table : String) (id : Int64) : Step Unit :=
  Step.modifyTable table fun t => { t with rows := t.rows.filter fun r => r.id ≠ id }

/-- Stores a row in a table, in place of an old one if there is one.  `pushedOut` is what follows
when a row is pushed out of the way. -/
def storeRow (pushedOut : Table → Row → Step Unit) (event : Event) (given : Option Conflict)
    (table : String) (old : Option Row) (row : Row) : Step Unit := do
  let t ← Step.table table
  let w ← Step.world []
  let row ← requireCells w given t row
  requireChecks w given t row
  let others := t.rows.filter fun r => old.map Row.id ≠ some r.id
  let staying ← beside w given t row others
  let going := others.filter fun r => !staying.any fun s => s.id = r.id
  going.forM fun r => do
    leave .displace t r
    removeRow table r.id
    pushedOut t r
  old.forM fun r => do
    leave event t r
    removeRow table r.id
  join event (← Step.table table) row
  Step.modifyTable table fun t => { t with rows := insertRow row t.rows }
  count

end Step

end FilterStore.Engine
