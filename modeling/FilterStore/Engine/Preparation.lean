import FilterStore.Engine.Change

/-!
# Preparing a change

Before a change runs, its names are looked up, then those of the triggers it may fire, and its
table's references must lead to keys.  So a trigger with a name that leads nowhere makes every
change fail that may fire it.  Views are read to see that they can be, though none can be changed.
-/

namespace FilterStore.Engine

open Sql (Change Conflict Expr Fault InsertSource Key Reference)
open Text (sameName)

/-- The table a change is made to. -/
def Database.changedTable (d : Database) (w : World) (name : String) : Except Fault Table :=
  match d.table? name with
  | some t => .ok t
  | none => do
    let _ ← w.relation name
    match d.view? name with
    | some v => .error (.notChangeable v.name)
    | none => .error (.notWritable name)

/-- What a change does to the rows of its table. -/
def eventOf : Change → Option Event
  | .select _ => none
  | .insert .. => some .insert
  | .update _ _ assignments _ => some (.update (assignments.map (·.1)))
  | .delete .. => some .delete

/-- The table of a change. -/
def tableOf : Change → Option String
  | .select _ => none
  | .insert _ table .. | .update _ table .. | .delete table _ => some table

/-- Looks up the names of the rows of an insertion, and counts their cells. -/
def checkRows (w : World) (shapes : List Shape) (rows : List (List Expr)) : Except Fault Nat := do
  let width := (rows.headD []).length
  if rows.any fun row => row.length ≠ width then .error .unequalRows
  rows.forM (checkExprs w shapes false)
  .ok width

/-- Whether an insertion gives as many cells as it names columns. -/
def checkCount (t : Table) (written : String) (columns : Option (List String)) (width : Nat) :
    Except Fault Unit :=
  match columns with
  | none =>
    if width = t.columns.length then .ok ()
    else .error (.valueCount written t.columns.length width)
  | some names =>
    if width = names.length then .ok () else .error (.valuesForColumns width names.length)

/-- Looks up the names of an insertion. -/
def checkInsertion (w : World) (shapes : List Shape) (t : Table) (written : String)
    (columns : Option (List String)) (source : InsertSource) : Except Fault Unit := do
  let _ ← insertedSlots t written columns
  match source with
  | .defaults => .ok ()
  | .values rows => checkCount t written columns (← checkRows w shapes rows)
  | .select s =>
    checkSelect w shapes s
    checkCount t written columns (headings w s).length

/-- Looks up the names of a change, apart from the triggers it fires. -/
def Database.checkNames (d : Database) (w : World) (shapes : List Shape) :
    Change → Except Fault Unit
  | .select s => do
    checkSelect w shapes s
    checkQueryCollations s
  | .insert _ table columns source => do
    let t ← d.changedTable w table
    checkInsertion w shapes t table columns source
  | .update _ table assignments condition => do
    let t ← d.changedTable w table
    let shapes := t.relation.shape t.name :: shapes
    assignments.forM fun (name, e) => do
      checkExpr w shapes false e
      let _ ← assignedSlots t [(name, e)]
    checkExpr w shapes false condition
    checkComparisons (condition :: assignments.map (·.2))
  | .delete table condition => do
    let t ← d.changedTable w table
    checkExpr w (t.relation.shape t.name :: shapes) false condition
    checkComparisons [condition]

/-- Whether a change adds one row at most. -/
def addsOneRow : Change → Bool
  | .insert _ _ _ .defaults => true
  | .insert _ _ _ (.values rows) => rows.length ≤ 1
  | _ => false

/-- What a change says about rows that may not be stored. -/
def givenConflict : Change → Option Conflict
  | .insert conflict .. | .update conflict .. => conflict
  | _ => none

/-- Whether rows may be pushed out of the way of those that a change stores. -/
def Database.mayDisplace (d : Database) (t : Table) (numbered : Bool) (c : Change) : Bool :=
  let pushes := fun (own : Option Conflict) => ruleOf (givenConflict c) own == .replace
  match c with
  | .insert .. | .update .. =>
    (numbered && pushes (t.rowIdKey?.bind Key.conflict)) ||
      (d.uniquenesses t).any fun u => pushes u.conflict
  | _ => false

/-- Whether a change gives numbers to rows of a table. -/
def Table.givesNumbers (t : Table) : Change → Bool
  | .insert _ _ none _ => t.rowIdColumn?.isSome
  | .insert _ _ (some columns) _ => columns.any fun c => t.slot? c = some .rowId
  | .update _ _ assignments _ => assignments.any fun (c, _) => t.slot? c = some .rowId
  | _ => false

/-- Whether the row before an event is looked at for the sake of references.  `demanded` says that
it is as soon as a reference is touched. -/
def Database.looksBack (d : Database) (t : Table) (event : Event) (demanded : Bool) : Bool :=
  match event with
  | .insert => false
  | .delete | .displace => true
  | .update _ =>
    let own := t.touchedOwn event
    let others := d.touchedOthers t event
    let follows := own.any (fun (_, r) => sameName r.table t.name) ||
      others.any fun (_, r) => r.onUpdate ≠ .nothing
    !(own.isEmpty && others.isEmpty) && (demanded || follows)

/-- The shapes that triggers of an event see. -/
def Table.triggerShapes (t : Table) (event : Event) : List Shape :=
  match event with
  | .insert => [t.triggerShape "NEW"]
  | .update _ => [t.triggerShape "NEW", t.triggerShape "OLD"]
  | .delete | .displace => [t.triggerShape "OLD"]

/-- What is wrong with references that do not lead to keys. -/
def Database.misled (d : Database) (references : List (Table × Reference)) : List Fault :=
  references.filterMap fun (child, r) =>
    match d.checkReference child r with
    | .ok () => none
    | .error f => some f

/-- The references to a table along which rows follow when something happens to it. -/
def Database.followed (d : Database) (t : Table) (event : Event) : List (Table × Reference) :=
  (d.touchedOthers t event).filter fun (_, r) => actionOn r event ≠ .nothing

/-- What is wrong with the references that come up when rows are stored or deleted.  `alone` says
that it is a single row that is added, in a statement of its own, so that a reference to it cannot
be broken or mended unless it is settled later. -/
def Database.misledBy (d : Database) (t : Table) (event : Event) (alone : Bool) : List Fault :=
  let others := (d.touchedOthers t event).filter fun (_, r) => !alone || r.deferred
  (d.misled (d.settledOwn t event) ++ d.misled others).take 1 ++ d.misled (d.followed t event)

/-- The statements by which rows follow those they refer to when something happens to a table. -/
def Database.followUps (d : Database) (t : Table) (event : Event) : List Change :=
  (d.touchedOthers t event).filterMap fun (child, r) =>
    (d.parentColumns? t r).bind fun key => followUp? child r key event

/-- Looks up the names of a change.  `inner` does so for statements that follow from it, given the
triggers that are running then and the shapes that the statements see.  All goes in the order in
which it comes up when the change runs.  Of the references that lead to no keys the last one is
reported, before anything that is wrong with what follows. -/
def Database.checkWhole (d : Database) (w : World) (foreignKeys : Bool)
    (inner : List String → List Shape → List Change → Except Fault Unit) (active : List String)
    (shapes : List Shape) (c : Change) : Except Fault Unit := do
  d.checkNames w shapes c
  match (tableOf c).bind d.table?, eventOf c with
  | some t, some event =>
    let before := d.awaiting active .before event t.name
    let after := d.awaiting active .after event t.name
    let fires := !(before.isEmpty && after.isEmpty)
    let numbered := t.givesNumbers c
    let seen := t.triggerShapes event
    let checkTrigger := fun (g : Trigger) => do
      (checkExpr { w with setting := .trigger } seen false g.condition).mapError Fault.inDefinition
      inner (g.name :: active) seen g.body
    let displaces := d.mayDisplace t numbered c
    let alone := active.isEmpty && !fires && !displaces && addsOneRow c
    let back := d.looksBack t event (fires || numbered)
    let misled :=
      (if back then d.misled (d.referencesTo t) else []) ++
        (if displaces then d.misled (d.referencesTo t) ++ d.misledBy t .displace false else []) ++
          d.misledBy t event alone
    match misled.getLast? with
    | some f => if foreignKeys then .error f
    | none => pure ()
    before.forM checkTrigger
    if foreignKeys then inner active seen (d.followUps t event)
    after.forM checkTrigger
  | _, _ => .ok ()

/-- Looks up the names of a change and of the statements that follow from it, to a depth. -/
def Database.checkChange (d : Database) (w : World) (foreignKeys : Bool) :
    Nat → List String → List Shape → Change → Except Fault Unit
  | 0 => d.checkWhole w foreignKeys fun _ _ _ => .ok ()
  | depth + 1 => d.checkWhole w foreignKeys fun active shapes body =>
    let w := { w with setting := .trigger }
    (body.forM (d.checkChange w foreignKeys depth active shapes)).mapError Fault.inDefinition

/-- How deep statements can follow from one another without coming back to one. -/
def Database.depth (d : Database) : Nat :=
  d.triggers.length + (d.tables.flatMap Table.referencesFrom).length

namespace Connection

/-- Looks up all names of a change. -/
def checkChange (c : Connection) (change : Change) : Except Fault Unit :=
  c.database.checkChange (c.world [] .statement) c.foreignKeys c.database.depth [] [] change

/-- Looks up the names of the statements that follow when the rows of a table go with it. -/
def checkEmptying (c : Connection) (t : Table) : Except Fault Unit :=
  let d := c.database
  let w := c.world [] .trigger
  if c.foreignKeys then
    ((d.followUps t .displace).forM fun statement =>
      d.checkChange w true d.depth [] (t.triggerShapes .displace) statement).mapError
        Fault.inDefinition
  else .ok ()

end Connection

end FilterStore.Engine
