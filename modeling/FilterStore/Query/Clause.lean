import FilterStore.Filter.Basic
import FilterStore.Filter.Operator
import FilterStore.Query.Basic
import FilterStore.Schema.Registry

/-!
# Conditions of single clauses

A clause becomes a condition without its parentheses.  Every cell goes into the statement through a
placeholder; what is written out is the operator's own spelling and a column that the table has.

A date that is compared with a temporal column is bound as that column stores dates, any other date
as its interchange text.  Lists are written out as one placeholder an element.  A text stands for a
list when the operator takes one: its elements are separated by commas.
-/

namespace FilterStore

open Text (trim lower commaList)

/-- Fails unless a raw clause has a text with as many placeholders as cells. -/
def RawClause.check (index : Nat) (raw : RawClause) : Except Error Unit :=
  if (trim raw.sql).isEmpty then .error (.unsupportedEntry index .rawBlank)
  else
    let placeholders := Placeholder.count raw.sql
    if placeholders = raw.values.length then .ok ()
    else .error (.unsupportedEntry index (.rawArity placeholders raw.values.length))

/-- A raw clause as a query, blanks around its text dropped. -/
def RawClause.query (raw : RawClause) : Query := ⟨trim raw.sql, raw.values⟩

namespace Clause

/-- The cell of a value in a column of an affinity, or of no temporal column. -/
def encode (affinity : Option Affinity) (v : Value) : Except Unencodable Cell :=
  match affinity with
  | some a => v.encodeFor a
  | none => v.encode

/-- The cells of a list: in a temporal column an item each, else nested lists opened. -/
def encodeItems (affinity : Option Affinity) (items : List Value) :
    Except Unencodable (List Cell) :=
  match affinity with
  | some a => items.mapM fun v => v.encodeFor a
  | none => Value.encodeAll items

/-- Says in which entry a value could not be encoded. -/
def located {α : Type} (index : Nat) (column : String) :
    Except Unencodable α → Except Error α
  | .ok a => .ok a
  | .error cause => .error (.unencodable (.entry index column) cause)

/-- What a clause is compiled against: its place, its column and how the column stores dates. -/
structure Context where
  index : Nat
  column : String
  affinity : Option Affinity

namespace Context

/-- The error of an operand that does not suit. -/
def invalid {α : Type} (x : Context) (operator : String) (fault : OperandFault) : Except Error α :=
  .error (.invalidOperand x.index operator fault)

/-- The cells an operator on lists gets. -/
def listCells (x : Context) (operator : String) : Option Operand → Except Error (List Cell)
  | none => x.invalid operator .missingList
  | some (.raw _) => x.invalid operator .rawForList
  | some (.value (.list items)) => located x.index x.column (encodeItems x.affinity items)
  | some (.value (.text s)) => .ok ((commaList s).map Cell.text)
  | some (.value v) =>
    (located x.index x.column (encode x.affinity v)).map fun c => [c]

/-- The same with at least one cell. -/
def someCells (x : Context) (operator : String) (operand : Option Operand) :
    Except Error (List Cell) := do
  let cells ← x.listCells operator operand
  if cells.isEmpty then x.invalid operator .needsSomeValue else .ok cells

/-- A range with two bounds. -/
def between (x : Context) (operator : String) (operand : Option Operand) : Except Error Query := do
  let cells ← x.listCells operator operand
  if cells.length = 2 then .ok ⟨x.column ++ " " ++ operator ++ " ? AND ?", cells⟩
  else x.invalid operator (.needsTwoValues cells.length)

/-- One of a list, or of the rows of a subquery. -/
def member (x : Context) (operator : String) (operand : Option Operand) : Except Error Query :=
  match operand with
  | some (.raw raw) => do
    raw.check x.index
    .ok (.text (x.column ++ " " ++ operator ++ " (") ++ raw.query ++ .text ")")
  | operand => do
    let cells ← x.someCells operator operand
    let marks := ", ".intercalate (List.replicate cells.length "?")
    .ok ⟨x.column ++ " " ++ operator ++ " (" ++ marks ++ ")", cells⟩

/-- Equal to every element of a list. -/
def all (x : Context) (operator : String) (operand : Option Operand) : Except Error Query :=
  match operand with
  | some (.raw _) => x.invalid operator .subqueryQuantifier
  | operand => do
    let cells ← x.someCells operator operand
    .ok ⟨" AND ".intercalate (List.replicate cells.length (x.column ++ " = ?")), cells⟩

/-- Compared with a single value. -/
def single (x : Context) (operator : String) : Option Operand → Except Error Query
  | none => x.invalid operator .missingValue
  | some (.raw raw) => do
    raw.check x.index
    .ok (.text (x.column ++ " " ++ operator ++ " ") ++ raw.query)
  | some (.value (.list items)) => x.invalid operator (.listForSingle items.length)
  | some (.value v) => do
    let cell ← located x.index x.column (encode x.affinity v)
    .ok ⟨x.column ++ " " ++ operator ++ " ?", [cell]⟩

/-- Whether a subquery has rows; the column does not matter. -/
def rows (x : Context) (operator : String) : Option Operand → Except Error Query
  | some (.raw raw) => do
    raw.check x.index
    .ok (.text (operator ++ " (") ++ raw.query ++ .text ")")
  | _ => x.invalid operator .needsSubquery

end Context

/-- Whether an operator asks about a subquery rather than a column. -/
def isAboutRows : Operator → Bool
  | .hasRows | .hasNoRows => true
  | _ => false

/-- The condition of an operator in a context. -/
def condition (x : Context) (o : Operator) (operand : Option Operand) : Except Error Query :=
  match o with
  | .hasRows | .hasNoRows => x.rows o.name operand
  | .isNull => .ok (.text (x.column ++ " ISNULL"))
  | .notNull => .ok (.text (x.column ++ " NOTNULL"))
  | .between | .notBetween => x.between o.name operand
  | .isIn | .any => x.member "IN" operand
  | .notIn => x.member "NOT IN" operand
  | .all => x.all o.name operand
  | .compare _ | .like | .notLike | .regexp => x.single o.name operand

end Clause

/-- The condition of a clause on a table's column. -/
def ColumnClause.compile (r : Registry) (t : TableDefinition) (index : Nat) (c : ColumnClause) :
    Except Error Query :=
  match Operator.parse? c.operator with
  | none => .error (.unknownOperator index c.operator)
  | some o =>
    let column := lower (trim c.column)
    let found := t.column? column
    if !Clause.isAboutRows o && found.isNone then .error (.unknownColumn t.name column)
    else
      let affinity :=
        found.bind fun d => if d.temporal then r.storageAffinity? t.name d.name else none
      Clause.condition { index, column, affinity } o c.operand

end FilterStore
