import FilterStore.Schema.Registry

/-!
# Changes in place

The functions of `FilterStore.Schema.Registry` answer with a new registry or with an error.  An
application holds one registry, and a change is carried out on that one: it checks and writes step
by step, and a step that fails leaves behind what the steps before it have written.

So that a failed change is none all the same, a change of several steps is made on a copy, which
takes the place of the registry once all steps are done.  A single trigger or index needs no copy,
because everything is checked before anything is written.
-/

namespace FilterStore

open Text (trim sameName)

/-- Work on a registry that writes as it goes, and fails where it has come to. -/
abbrev Revision := ExceptT Error (StateM Registry)

namespace Revision

/-- What the registry answers as it stands. -/
def ask {α : Type} (question : Registry → Except Error α) : Revision α :=
  ExceptT.mk do pure (question (← get))

/-- Writes into the registry. -/
def write (f : Registry → Registry) : Revision Unit := modify f

/-- Works on a copy, and keeps the copy if the work succeeds. -/
def staged (work : Revision Unit) : Revision Unit :=
  ExceptT.mk do
    let (outcome, copy) := work.run (← get)
    match outcome with
    | .ok () =>
      set copy
      pure (.ok ())
    | .error e => pure (.error e)

/-- Registers a trigger: first in the list of triggers, then with its table. -/
def addTrigger (name table sql : String) : Revision Unit := do
  let name := trim name
  let table := trim table
  ask fun _ => checkIdentifier .trigger name
  let t ← ask fun r => r.requireTable table
  ask fun r => r.ensureUnlocked table
  let trigger : TriggerDefinition := { name, table := t.name, sql := trim sql }
  write fun r => { r with triggers := Named.put TriggerDefinition.name trigger r.triggers }
  let names :=
    if t.triggers.any fun n => sameName n name then t.triggers else t.triggers ++ [name]
  write fun r => r.putTable { t with triggers := names }

/-- Puts a column into a table, and then the trigger that keeps it up to date. -/
def putColumn (table : String) (c : ColumnDefinition) : Revision Unit := do
  ask fun _ => checkIdentifier .column c.name
  let t ← ask fun r => r.requireTable table
  let c := (← get).complete c
  write fun r => r.putTable { t with columns := Named.put ColumnDefinition.name c t.columns }
  let r ← get
  if r.isChangeColumn c.name then
    addTrigger (Registry.touchName t.name c.name) t.name
      (Registry.touchSql t.name c.name r.timestampAffinity.nowExpression)

/-- Registers an index. -/
def addIndex (name table : String) (columns : List String) (unique : Bool) : Revision Unit := do
  let name := trim name
  let table := trim table
  ask fun _ => checkIdentifier .index name
  ask fun r => r.ensureUnlocked table
  if columns.isEmpty then throw (.invalidName .indexColumn "")
  else
    ask fun r => r.checkColumns table columns
    let t ← ask fun r => r.requireTable table
    let spelled := columns.map fun c =>
      match t.column? c with
      | some d => d.name
      | none => trim c
    let index : IndexDefinition := { name, table := t.name, columns := spelled, unique }
    write fun r => { r with indexes := Named.put IndexDefinition.name index r.indexes }

/-- Writes the constraints of a table, and then registers the indexes among them. -/
def replaceConstraints (table : String) (constraints : List TableConstraint) : Revision Unit := do
  let t ← ask fun r => r.requireTable table
  write fun r => r.putTable { t with constraints := Registry.constraintTexts constraints }
  constraints.forM fun
    | .sql _ => pure ()
    | .index name columns unique => addIndex name table columns unique

/-- Empties a table, or registers it without columns, and then fills it. -/
def replaceTable (name : String) (columns : List ColumnDefinition)
    (constraints : List TableConstraint) : Revision Unit := do
  write fun r => r.putTable { name, columns := [], constraints := [], triggers := [] }
  write fun r => { r with triggers := r.triggers.filter fun t => !sameName t.table name }
  columns.forM (putColumn name)
  let t ← ask fun r => r.requireTable name
  write fun r => { r with indexes := r.indexes.filter (Registry.keepsIndex t) }
  replaceConstraints name constraints

/-- Registers a table. -/
def addTable (name : String) (columns : List ColumnDefinition)
    (constraints : List TableConstraint) : Revision Unit := do
  let name := trim name
  ask fun _ => checkIdentifier .table name
  ask fun r => r.ensureUnlocked name
  staged (replaceTable name columns constraints)

/-- Sets columns of a registered table. -/
def setColumns (table : String) (columns : List ColumnDefinition) : Revision Unit := do
  let table := trim table
  let _ ← ask fun r => r.requireTable table
  ask fun r => r.ensureUnlocked table
  staged (columns.forM (putColumn table))

/-- Replaces the constraints of a registered table. -/
def setConstraints (table : String) (constraints : List TableConstraint) : Revision Unit := do
  let table := trim table
  let _ ← ask fun r => r.requireTable table
  ask fun r => r.ensureUnlocked table
  staged (replaceConstraints table constraints)

/-- Refuses every later change. -/
def lock : Revision Unit := write Registry.lock

end Revision

end FilterStore
