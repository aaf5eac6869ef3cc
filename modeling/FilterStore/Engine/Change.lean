import FilterStore.Engine.Constraint
import FilterStore.Sql.Alias

/-!
# Changing rows

An insertion first computes all its rows and then stores one after the other.  An update and a
deletion first find their rows and then go through them; a row that is gone by then is passed over.

Around each row the triggers of its table run, before and after it is stored or deleted.  They see
the row before the change as `OLD` and after it as `NEW`.  A trigger that leaves the row out ends
what was to be done with this row, and what was done so far stays.  A trigger does not run while it
is running already.

When a row that others refer to goes or gets another key, those rows follow it before the triggers
run: they go too, refer to the new key, to their defaults or to nothing, as their reference says.
A row that is pushed out of the way of another is followed in the same way, but fires no trigger.

What follows from a statement is done by statements, and what follows from those as well, to a
depth at which the engine gives up.  The rule for rows that may not be stored, if a statement gives
one, also holds for the statements of the triggers it fires.  Rows that those change do not count,
nor does what they insert count as the row inserted last.

A table may be one that does not give the number of a row twice.  The greatest number it has given
is looked up when rows are first inserted, and recorded when the statement has ended well.
-/

namespace FilterStore.Engine

open Sql (Change Conflict Expr Fault InsertSource Reference ReferenceAction TriggerTime)
open Text (sameName)

/-- A row's shape in a trigger. -/
def Table.triggerShape (t : Table) (name : String) : Shape :=
  { name, columns := t.columnShapes, qualified := true, numbered := true }

/-- What triggers see of a change of a row. -/
def Table.triggerFrames (t : Table) (old new : Option Row) : List Frame :=
  (new.map fun row => { shape := t.triggerShape "NEW", row }).toList ++
    (old.map fun row => { shape := t.triggerShape "OLD", row }).toList

/-- The triggers that run for an event, but for those that are running already. -/
def Database.awaiting (d : Database) (active : List String) (time : TriggerTime) (event : Event)
    (table : String) : List Trigger :=
  (d.triggersOf table).filter fun g =>
    g.time = time && awaits g.event event && !active.any (sameName g.name)

/-! ## Rows to be stored -/

/-- What a name among the columns of a table leads to. -/
inductive Slot
  | rowId
  | cell (index : Nat)
  deriving DecidableEq

/-- The slot of a name in the rows of a table. -/
def Table.slot? (t : Table) (name : String) : Option Slot :=
  match t.columnIndex? name with
  | some i => some (if t.rowIdColumn? = some i then .rowId else .cell i)
  | none => if rowIdNames.any (sameName name) then some .rowId else none

/-- The slots of all columns of a table. -/
def Table.slots (t : Table) : List Slot :=
  (List.range t.columns.length).map fun i =>
    if t.rowIdColumn? = some i then .rowId else .cell i

/-- The cell that is given for a slot, the first one if there are several. -/
def firstGiven? (p : Slot) (cells : List (Slot × Cell)) : Option Cell :=
  (cells.find? fun c => c.1 = p).map (·.2)

/-- The cell that is given for a slot, the last one if there are several. -/
def lastGiven? (p : Slot) (cells : List (Slot × Cell)) : Option Cell := firstGiven? p cells.reverse

/-- A cell as the number of a row. -/
def rowNumber (c : Cell) : Except Fault Int64 :=
  match compacted (numbered c) with
  | .integer n => .ok n
  | _ => .error .datatypeMismatch

/-- The number that is given for a new row, if one is. -/
def givenNumber (cells : List (Slot × Cell)) : Except Fault (Option Int64) :=
  match lastGiven? .rowId cells with
  | none | some .null => .ok none
  | some c => (rowNumber c).map some

/-- A row with its number also in the column that holds it. -/
def Table.numberedRow (t : Table) (id : Int64) (cells : List Cell) : Row :=
  match t.rowIdColumn? with
  | some i => { id, cells := cells.set i (.integer id) }
  | none => { id, cells }

/-- The cells of a new row: those that are given, and defaults for the others. -/
def Table.newCells (t : Table) (w : World) (cells : List (Slot × Cell)) :
    Except Fault (List Cell) :=
  t.columns.zipIdx.mapM fun (column, i) =>
    match firstGiven? (.cell i) cells with
    | some c => .ok (stored column.affinity c)
    | none => Table.defaultCell w column

/-- A row with some of its cells replaced. -/
def Table.replaced (t : Table) (cells : List (Slot × Cell)) (row : Row) : Except Fault Row := do
  let id ←
    match lastGiven? .rowId cells with
    | some c => rowNumber c
    | none => .ok row.id
  let cells := (t.columns.zip row.cells).zipIdx.map fun ((column, old), i) =>
    match lastGiven? (.cell i) cells with
    | some c => stored column.affinity c
    | none => old
  .ok (t.numberedRow id cells)

/-! ## Numbers of new rows -/

/-- The number that is recorded for a table. -/
def Database.recordedNumber? (d : Database) (table : String) : Option Int64 :=
  ((d.table? Database.numberingName).map Table.rows).bind fun rows =>
    (rows.find? fun r => same (r.cells.headD .null) (.text table)).map fun r =>
      wholeOf (r.cells.getD 1 .null)

/-- The rows of recorded numbers with that of a table. -/
def recordNumber (table : String) (n : Int64) (rows : List Row) : List Row :=
  let cells : List Cell := [.text table, .integer n]
  let isRecord := fun (r : Row) => same (r.cells.headD .null) (.text table)
  if rows.any isRecord then rows.map fun r => if isRecord r then { r with cells } else r
  else rows ++ [{ id := (rows.getLast?.map Row.id).getD 0 + 1, cells }]

namespace Step

/-- What is known of the numbers that a table has given, looked up if it is not known yet. -/
def numbering (t : Table) : Step Numbering := do
  let c ← get
  match c.numberings.find? fun n => n.table = t.name with
  | some n => pure n
  | none =>
    let recorded := c.database.recordedNumber? t.name
    let n : Numbering := { table := t.name, recorded, greatest := recorded.getD 0 }
    set { c with numberings := c.numberings ++ [n] }
    pure n

/-- Takes note that a table has given a number. -/
def noteNumber (t : Table) (id : Int64) : Step Unit := do
  if t.isLasting then
    let known ← numbering t
    modify fun c =>
      { c with
        numberings := c.numberings.map fun n =>
          if n.table = known.table then { n with greatest := max n.greatest id } else n }

/-- The number of the next row of a table: one more than the greatest. -/
def nextNumber (t : Table) : Step Int64 := do
  let greatest ←
    if t.isLasting then do
      let known ← numbering t
      pure (max known.greatest t.greatestId)
    else pure t.greatestId
  if greatest = Int64.maxValue then stop .full else pure (greatest + 1)

/-- Records the numbers that were given. -/
def recordNumbers : Step Unit := do
  (← get).numberings.forM fun n =>
    if n.recorded.all (· < n.greatest) then
      Step.modifyTable Database.numberingName fun t =>
        { t with rows := recordNumber n.table n.greatest t.rows }
    else pure ()

end Step

/-! ## Steps on one row -/

/-- Does what follows from a change of a row, given the row before it and after it. -/
abbrev Fire := Option Conflict → TriggerTime → Event → Table → Option Row → Option Row → Step Unit

/-- The number of a row as triggers see it before it is known. -/
def unknownNumber : Int64 := -1

namespace Step

/-- Makes a step unless its row is left out. -/
def leavable (row : Step Unit) : Step Unit :=
  tryCatch row fun h => if h.fault = .rowIgnored then pure () else throw h

/-- What follows when a row is pushed out of the way of another. -/
def displaced (fire : Fire) (t : Table) (row : Row) : Step Unit :=
  fire (some .abort) .after .displace t (some row) none

/-- Inserts a row. -/
def insertOne (fire : Fire) (given : Option Conflict) (t : Table) (cells : List (Slot × Cell)) :
    Step Unit := do
  let number ← Step.ofExcept (givenNumber cells)
  let values ← Step.ofExcept (t.newCells (← Step.world []) cells)
  let early := t.numberedRow (number.getD unknownNumber) values
  fire given .before .insert t none (some early)
  let now ← Step.table t.name
  let id ←
    match number with
    | some n => pure n
    | none => nextNumber now
  noteNumber t id
  let row := t.numberedRow id values
  storeRow (displaced fire) .insert given t.name none row
  modify fun c => { c with lastInsertId := id }
  fire given .after .insert t none (some row)

/-- The row of a number in a table, unless it is gone. -/
def current (table : String) (id : Int64) : Step Row := do
  match (← Step.table table).rows.find? fun r => r.id = id with
  | some row => pure row
  | none => stop .rowIgnored

/-- Updates a row. -/
def updateOne (fire : Fire) (given : Option Conflict) (t : Table) (frames : List Frame)
    (parameters : List Cell) (slots : List (Slot × Expr)) (names : List String) (id : Int64) :
    Step Unit := do
  let old ← current t.name id
  let w ← Step.world parameters
  let cells ← slots.mapM fun (slot, e) => do
    let c ← Step.ofExcept (eval w .value (t.frame old :: frames) [] e)
    pure (slot, c)
  let early ← Step.ofExcept (t.replaced cells old)
  fire given .before (.update names) t (some old) (some early)
  let now ← current t.name id
  let row ← Step.ofExcept (t.replaced cells now)
  storeRow (displaced fire) (.update names) given t.name (some now) row
  fire given .after (.update names) t (some old) (some row)

/-- Deletes a row. -/
def deleteOne (fire : Fire) (t : Table) (id : Int64) : Step Unit := do
  let old ← current t.name id
  fire none .before .delete t (some old) none
  let now ← current t.name id
  leave .delete t now
  removeRow t.name id
  count
  fire none .after .delete t (some old) none

end Step

/-! ## Whole statements -/

/-- The rows of values an insertion asks for. -/
def insertedRows (w : World) (frames : List Frame) :
    InsertSource → Except Fault (List (List Cell))
  | .defaults => .ok [[]]
  | .values rows => rows.mapM (evalAll w frames [])
  | .select s => queryRows w frames false s

/-- The slots an insertion gives cells for.  `written` is the name of the table in the statement. -/
def insertedSlots (t : Table) (written : String) (columns : Option (List String)) :
    Except Fault (List Slot) :=
  match columns with
  | none => .ok t.slots
  | some names => names.mapM fun name =>
    match t.slot? name with
    | some p => .ok p
    | none => .error (.noColumnNamed written name)

/-- The slots an update gives cells for. -/
def assignedSlots (t : Table) (assignments : List (String × Expr)) :
    Except Fault (List (Slot × Expr)) :=
  assignments.mapM fun (name, e) =>
    match t.slot? name with
    | some p => .ok (p, e)
    | none => .error (.noSuchColumn name none)

/-- Whether the conjuncts of turns hold, one turn after the other. -/
def passesTurns (w : World) (sought : List String) (own : List Shape) (frames : List Frame)
    (condition : Expr) : List Turn → Except Fault Bool
  | [] => .ok true
  | turn :: rest => do
    let c ← eval w (.ofTurn sought own turn) frames [] condition
    if truth c = some true then passesTurns w sought own frames condition rest else .ok false

/-- The numbers of the rows that fulfil a condition. -/
def chosenRows (w : World) (frames : List Frame) (t : Table) (condition : Expr) :
    Except Fault (List Int64) := do
  let own := [t.relation.shape t.name]
  let sought := ((w.relation? t.name).map Relation.sought).getD []
  if ← passesTurns w sought own frames condition [.ahead] then
    let rows ← t.rows.filterM fun row =>
      passesTurns w sought own (t.frame row :: frames) condition [.lookUp, .plain, .last]
    .ok (rows.map Row.id)
  else .ok []

namespace Step

/-- Makes a change.  A rule for rows that may not be stored that is given from outside goes before
that of the statement. -/
def change (fire : Fire) (parameters : List Cell) (frames : List Frame) (outer : Option Conflict) :
    Change → Step Unit
  | .select s => do
    let w ← Step.world parameters
    let _ ← Step.ofExcept (queryRows w frames false s)
    pure ()
  | .insert own table columns source => do
    let t ← Step.table table
    if t.isLasting then
      let _ ← numbering t
    let slots ← Step.ofExcept (insertedSlots t table columns)
    let rows ← Step.ofExcept (insertedRows (← Step.world parameters) frames source)
    rows.forM fun cells => leavable (insertOne fire (outer <|> own) t (slots.zip cells))
  | .update own table assignments condition => do
    let t ← Step.table table
    let slots ← Step.ofExcept (assignedSlots t assignments)
    let ids ← Step.ofExcept (chosenRows (← Step.world parameters) frames t condition)
    let names := assignments.map (·.1)
    ids.forM fun id => leavable (updateOne fire (outer <|> own) t frames parameters slots names id)
  | .delete table condition => do
    let t ← Step.table table
    let ids ← Step.ofExcept (chosenRows (← Step.world parameters) frames t condition)
    ids.forM fun id => leavable (deleteOne fire t id)

end Step

/-! ## References -/

/-- A column of the row before a change or after it. -/
def changedCell (row name : String) : Expr :=
  .column { table := some row, name, quoted := false, offset := 0 }

/-- What chooses the rows that refer to a row before it was changed. -/
def referringTo (r : Reference) (key : List String) : Expr :=
  (key.zip r.columns).foldr
    (fun (parent, child) e =>
      .binary .and (.binary .equal (changedCell "OLD" parent) (nameExpr child)) e)
    (.literal (.integer 1))

/-- The default of a column as an expression. -/
def Table.defaultExpr (t : Table) (name : String) : Expr :=
  let column := (t.columnIndex? name).bind fun i => t.columns[i]?
  ((column.bind fun c => c.default).map fun e => e.expr).getD (.literal .null)

/-- A statement that fails if there is a row that fulfils a condition. -/
def failIfAny (table : String) (condition : Expr) : Change :=
  let failing := Expr.raise .statement (.literal (.text Fault.foreignKey.text))
  .select (Sql.namedSelect false [.value failing "" false] (some { table, name := table }) condition
    [] (.literal (.integer 1)) [] (.literal (.integer (-1))) (.literal (.integer 0)))

/-- What becomes of the rows that refer to a row when something happens to it. -/
def actionOn (r : Reference) : Event → ReferenceAction
  | .insert => .nothing
  | .update _ => r.onUpdate
  | .delete | .displace => r.onDelete

/-- The statement by which the rows of a table follow the row they refer to. -/
def followUp? (child : Table) (r : Reference) (key : List String) (event : Event) : Option Change :=
  let condition := referringTo r key
  let set := fun (cells : List Expr) =>
    some (Change.update none child.name (r.columns.zip cells) condition)
  match actionOn r event, event with
  | .nothing, _ => none
  | .restrict, _ => some (failIfAny child.name condition)
  | .setNull, _ => set (r.columns.map fun _ => .literal .null)
  | .setDefault, _ => set (r.columns.map child.defaultExpr)
  | .cascade, .update _ => set (key.map (changedCell "NEW"))
  | .cascade, _ => some (.delete child.name condition)

/-- Whether a change of a row leaves its key as it was. -/
def keepsKey (t : Table) (key : List String) (old : Row) (new : Option Row) : Bool :=
  match new with
  | none => false
  | some new => sameRow (t.collationsOf key) (t.cellsOf key old) (t.cellsOf key new)

namespace Step

/-- Does a statement without changing what counts as the row inserted last, and how many rows have
changed. -/
def aside (statement : Step Unit) : Step Unit := do
  let c ← get
  statement
  modify fun after => { after with lastInsertId := c.lastInsertId, counted := c.counted }

/-- Lets the rows that refer to a row follow what happens to it. -/
def followReferences (perform : Change → Step Unit) (event : Event) (t : Table) (old : Row)
    (new : Option Row) : Step Unit := do
  let c ← get
  if c.foreignKeys then
    (c.database.touchedOthers t event).forM fun (child, r) =>
      match c.database.parentColumns? t r with
      | none => pure ()
      | some key =>
        if keepsKey t key old new then pure ()
        else
          match followUp? child r key event with
          | none => pure ()
          | some statement => aside (perform statement)

/-! ## Triggers -/

/-- How deep statements may nest that follow from one another. -/
def nestingLimit : Nat := 1000

/-- Does what follows from a change of a row, to a depth: after the change the rows that refer to
the row follow, then the triggers run that wait for the event.  `active` are those running already.
-/
def follow : Nat → List String → Fire
  | 0, _ => fun _ _ _ _ _ _ => stop .tooDeep
  | depth + 1, active => fun given time event t old new => do
    let frames := t.triggerFrames old new
    let perform := fun (active : List String) (given : Option Conflict) =>
      change (follow depth active) [] frames given
    match time, old with
    | .after, some old => followReferences (perform active (some .abort)) event t old new
    | _, _ => pure ()
    let waiting := (← get).database.awaiting active time event t.name
    waiting.forM fun g => do
      if ← Step.ofExcept (holds (← Step.world []) frames g.condition) then
        g.body.forM fun statement => aside (perform (g.name :: active) given statement)

end Step

end FilterStore.Engine
