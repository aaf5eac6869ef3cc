import FilterStore.Query.Condition

/-!
# Statements

Selecting, counting, deleting and updating share one `WHERE`, so they address the same rows.
Inserting and updating share the cells of a record, each encoded as its column stores values.
-/

namespace FilterStore

open Text (trim)

/-- The `WHERE` of a request, with the blank before it; nothing if there is no filter. -/
def Registry.whereClause (r : Registry) (t : TableDefinition) (spec : Spec) :
    Except Error Query :=
  if spec.filter.isEmpty then .ok .empty
  else do
    let condition ← Condition.compile r t spec.joining spec.filter
    .ok (.text " WHERE " ++ condition)

namespace Statement

/-- All columns of a table. -/
def allColumns (t : TableDefinition) : String :=
  if t.columns.isEmpty then "*" else ", ".intercalate t.columnNames

/-- One selected column. -/
def selected (t : TableDefinition) : Selector → Except Error Query
  | .column name =>
    if trim name = "*" then .ok (.text (allColumns t))
    else
      match t.column? name with
      | some c => .ok (.text c.name)
      | none => .error (.unknownColumn t.name (trim name))
  | .raw raw => .ok ⟨raw.sql, raw.values⟩

/-- Queries with commas between them. -/
def commaSeparated : List Query → Query
  | [] => .empty
  | [q] => q
  | q :: rest => q ++ .text ", " ++ commaSeparated rest

/-- The selected columns; no selector stands for all columns. -/
def selectList (t : TableDefinition) (columns : List Selector) : Except Error Query :=
  if columns.isEmpty then .ok (.text (allColumns t))
  else (columns.mapM (selected t)).map commaSeparated

/-- One term of an order, at a position. -/
def orderTerm (t : TableDefinition) (index : Nat) (term : OrderTerm) : Except Error String :=
  let column := trim term.column
  if isIdentifier column then
    match t.column? column with
    | some c => .ok (c.name ++ " " ++ term.direction.name)
    | none => .error (.unknownColumn t.name column)
  else .error (.unsupportedEntry index .orderNotAColumn)

/-- Terms of an order, the first of them at a position. -/
def orderTerms (t : TableDefinition) (index : Nat) : List OrderTerm → Except Error (List String)
  | [] => .ok []
  | term :: rest => do
    let first ← orderTerm t index term
    let others ← orderTerms t (index + 1) rest
    .ok (first :: others)

/-- The order of a request, with the blank before it. -/
def orderClause (t : TableDefinition) (order : List OrderTerm) : Except Error String :=
  if order.isEmpty then .ok ""
  else (orderTerms t 0 order).map fun terms => " ORDER BY " ++ ", ".intercalate terms

/-- The limit of a request, with the blank before it.  A range without rows is no limit. -/
def limitClause : Option Limit → String
  | some (.count n) => " LIMIT " ++ toString n.toNat
  | some (.range offset count) =>
    if count = 0 then "" else " LIMIT " ++ toString offset.toNat ++ ", " ++ toString count.toNat
  | none => ""

/-- The fields of a record, the first of them at a position: registered column and cell. -/
def fields (r : Registry) (t : TableDefinition) (index : Nat) :
    List (String × Value) → Except Error (List (String × Cell))
  | [] => .ok []
  | (name, value) :: rest =>
    match t.column? name with
    | none => .error (.unknownColumn t.name (trim name))
    | some c =>
      let affinity := (r.storageAffinity? t.name c.name).getD c.affinity
      match value.encodeFor affinity with
      | .error cause => .error (.unencodable (.field index c.name) cause)
      | .ok cell => do
        let others ← fields r t (index + 1) rest
        .ok ((c.name, cell) :: others)

end Statement

namespace Registry

open Statement

/-- The rows of a request. -/
def compileSelect (r : Registry) (table : String) (spec : Spec) : Except Error Query := do
  let t ← r.target table
  let columns ← selectList t spec.columns
  let condition ← r.whereClause t spec
  let order ← orderClause t spec.order
  .ok (.text "SELECT " ++ columns ++ .text (" FROM " ++ t.name) ++ condition ++
    .text (order ++ limitClause spec.limit))

/-- The number of rows of a request. -/
def compileCount (r : Registry) (table : String) (spec : Spec) : Except Error Query := do
  let t ← r.target table
  let condition ← r.whereClause t spec
  .ok (.text ("SELECT COUNT(*) FROM " ++ t.name) ++ condition)

/-- Deletes the rows of a request; without a filter all rows. -/
def compileDelete (r : Registry) (table : String) (spec : Spec) : Except Error Query := do
  let t ← r.target table
  let condition ← r.whereClause t spec
  .ok (.text ("DELETE FROM " ++ t.name) ++ condition)

/-- Inserts a record. -/
def compileInsert (r : Registry) (table : String) (record : Record) : Except Error Query := do
  let t ← r.target table
  if record.isEmpty then .ok (.text ("INSERT INTO " ++ t.name ++ " DEFAULT VALUES"))
  else
    let fields ← fields r t 0 record.fields
    let marks := ", ".intercalate (List.replicate fields.length "?")
    .ok ⟨"INSERT INTO " ++ t.name ++ " (" ++ ", ".intercalate (fields.map (·.1)) ++ ") VALUES (" ++
      marks ++ ")", fields.map (·.2)⟩

/-- Updates the rows of a request with the fields of a record. -/
def compileUpdate (r : Registry) (table : String) (record : Record) (spec : Spec) :
    Except Error Query := do
  let t ← r.target table
  if record.isEmpty then .error (.invalidOperand 0 "UPDATE" .emptyRecord)
  else
    let fields ← fields r t 0 record.fields
    let assignments := ", ".intercalate (fields.map fun f => f.1 ++ " = ?")
    let condition ← r.whereClause t spec
    .ok (⟨"UPDATE " ++ t.name ++ " SET " ++ assignments, fields.map (·.2)⟩ ++ condition)

end Registry

end FilterStore
