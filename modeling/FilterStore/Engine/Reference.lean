import FilterStore.Engine.Database

/-!
# References between tables

A reference leads from columns of one table to a key of another, its *parent*.  A row *dangles* if
none of its referring cells is null and no row of the parent has their values in the key.  Cells are
compared as the parent's columns would store and compare them.

Rows are inserted, updated and deleted, and pushed out of the way of others.  Triggers wait for some
of these events, and some matter to references: an update does if it assigns to one of their
columns.  What becomes of the rows that refer to one that goes or changes is not said here, but
where rows are changed.
-/

namespace FilterStore.Engine

open Sql (Collation Column Expr Fault Key KeyColumn Reference TriggerEvent)
open Text (sameName)

/-! ## What happens to rows -/

/-- What happens to a row. -/
inductive Event
  | insert
  /-- An update of the columns of these names. -/
  | update (columns : List String)
  | delete
  /-- A deletion to make room for another row; no trigger waits for it. -/
  | displace
  deriving DecidableEq, Repr

/-- Whether a trigger waits for an event. -/
def awaits : TriggerEvent → Event → Bool
  | .insert, .insert | .delete, .delete => true
  | .update none, .update _ => true
  | .update (some awaited), .update columns => awaited.any fun a => columns.any (sameName a)
  | _, _ => false

/-- The name of a column under any of its names, among which are those of the number of a row. -/
def Table.properName (t : Table) (name : String) : String :=
  match t.column? name, t.rowIdColumn?.bind fun i => t.columns[i]? with
  | none, some c => if rowIdNames.any (sameName name) then c.name else name
  | _, _ => name

/-- Whether an event touches one of some columns of a table. -/
def Event.touches (t : Table) (columns : List String) : Event → Bool
  | .insert | .delete | .displace => true
  | .update changed => changed.any fun c => columns.any (sameName (t.properName c))

/-! ## Keys and references -/

/-- Whether two lists of names are the same in some order. -/
def sameNames (a b : List String) : Bool :=
  a.length == b.length && a.all fun x => b.any (sameName x)

/-- A column that is a term of an index, with a collation of its own if it has one. -/
def columnTerm? : Expr → Option KeyColumn
  | .column c => some ⟨c.name, none⟩
  | .collate (.column c) name => some ⟨c.name, Collation.ofName? name⟩
  | _ => none

/-- The columns of an index whose terms are all columns. -/
def Index.columns? (i : Index) : Option (List KeyColumn) := i.terms.mapM columnTerm?

/-- Whether columns that occur once are those of some names, each compared as it is elsewhere. -/
def Table.isKeyOf (t : Table) (names : List String) (columns : List KeyColumn) : Bool :=
  columns.all t.keepsCollation && sameNames (columns.map KeyColumn.name) names

/-- Whether columns are a key of a table, by its definition or by an index. -/
def Database.isKey (d : Database) (t : Table) (names : List String) : Bool :=
  t.parts.keys.any (fun k => t.isKeyOf names k.columns) ||
    (d.indexesOf t.name).any fun i =>
      i.unique && i.condition.isNone && (i.columns?.map (t.isKeyOf names)).getD false

/-- The columns of the parent that a reference leads to, if they are a key of it. -/
def Database.parentColumns? (d : Database) (parent : Table) (r : Reference) :
    Option (List String) :=
  match r.parentColumns with
  | none =>
    let key := parent.primaryColumns
    if key.length = r.columns.length ∧ key ≠ [] then some key else none
  | some columns =>
    if columns.length = r.columns.length ∧ d.isKey parent columns then some columns else none

/-- The cells of a row in columns of a table. -/
def Table.cellsOf (t : Table) (columns : List String) (row : Row) : List Cell :=
  columns.map fun c => ((t.columnIndex? c).bind fun i => row.cells[i]?).getD .null

/-- Cells as columns of a table would store them. -/
def Table.storedCells (t : Table) (columns : List String) (cells : List Cell) : List Cell :=
  (columns.zip cells).map fun (name, c) =>
    match t.column? name with
    | some column => stored column.affinity c
    | none => c

/-- The collations of columns of a table. -/
def Table.collationsOf (t : Table) (columns : List String) : List Collation :=
  columns.map fun c => t.keyCollation ⟨c, none⟩

/-- Whether two lists of cells are equal by collations, none of them null. -/
def sameCells (collations : List Collation) (a b : List Cell) : Bool :=
  a.length == b.length && !a.any (same .null) && sameRow collations a b

/-- Whether a row of a table refers to a row of its parent. -/
def refersTo (child parent : Table) (r : Reference) (key : List String) (row target : Row) :
    Bool :=
  sameCells (parent.collationsOf key) (parent.storedCells key (child.cellsOf r.columns row))
    (parent.cellsOf key target)

/-- Whether a row dangles on a reference, given the rows of its parent. -/
def dangles (child parent : Table) (r : Reference) (key : List String) (targets : List Row)
    (row : Row) : Bool :=
  !(child.cellsOf r.columns row).any (same .null) &&
    !targets.any (refersTo child parent r key row)

/-- Whether a reference leads to a key of a table. -/
def Database.checkReference (d : Database) (child : Table) (r : Reference) : Except Fault Unit :=
  match d.table? r.table, d.view? r.table with
  | none, none => .error (.noSuchTable r.table true)
  | none, some _ => .error (.referenceMismatch child.name r.table)
  | some parent, _ =>
    if (d.parentColumns? parent r).isSome then .ok ()
    else .error (.referenceMismatch child.name r.table)

/-! ## The references that an event touches -/

/-- The references of a table, the newest first, with the table itself. -/
def Table.referencesFrom (t : Table) : List (Table × Reference) :=
  t.parts.references.reverse.map fun r => (t, r)

/-- The references to a table, the newest first, with the tables they come from. -/
def Database.referencesTo (d : Database) (t : Table) : List (Table × Reference) :=
  d.tables.reverse.flatMap fun child =>
    child.referencesFrom.filter fun (_, r) => sameName r.table t.name

/-- The references of a table that an event touches. -/
def Table.touchedOwn (t : Table) (event : Event) : List (Table × Reference) :=
  t.referencesFrom.filter fun (_, r) => event.touches t r.columns

/-- The references to a table that an event touches. -/
def Database.touchedOthers (d : Database) (t : Table) (event : Event) : List (Table × Reference) :=
  (d.referencesTo t).filter fun (_, r) => event.touches t (r.parentColumns.getD t.primaryColumns)

/-- The references of a table that are settled after an event: those it touches and, if there is any
to or from the table, those from the table to itself. -/
def Database.settledOwn (d : Database) (t : Table) (event : Event) : List (Table × Reference) :=
  let own := t.touchedOwn event
  if own.isEmpty && (d.touchedOthers t event).isEmpty then []
  else t.referencesFrom.filter fun (_, r) => sameName r.table t.name || event.touches t r.columns

end FilterStore.Engine
