import FilterStore.Error
import FilterStore.Filter.Basic
import FilterStore.Json.Reader
import FilterStore.Value.Interchange

/-!
# Requests from JSON

A request is an object with the members `filter`, `columns`, `limit`, `operator` and `order`, each
of which may be missing or `null`.  Where a part has the wrong shape the error says at which
position; but a connective or a direction that is not understood is left out rather than refused,
and so is a term of the order that is neither a name nor a pair with a name.

A filter that starts with something that cannot be an entry is one clause written without its
brackets: `["age", ">", 18]` stands for `[["age", ">", 18]]`.
-/

namespace FilterStore

open Text (trim commaList)

namespace RawClause

/-- Whether a value is an object with the text of a raw clause. -/
def isShape (json : Json) : Bool := ((json.member? "sql").bind Json.string?).isSome

/-- Reads a raw clause. -/
def ofJson (index : Nat) (json : Json) : Except Error RawClause :=
  match (json.member? "sql").bind Json.string? with
  | none => .error (.unsupportedEntry index .rawWithoutSql)
  | some sql =>
    match json.member? "values" with
    | none | some .null => .ok ⟨sql, []⟩
    | some (.array values) => .ok ⟨sql, values.map Cell.ofJson⟩
    | some _ => .error (.unsupportedEntry index .rawValuesShape)

end RawClause

/-- The connective a value names, if it names one. -/
def connectiveOf? (json : Json) : Option Connective := json.string?.bind Connective.parse?

namespace Operand

/-- Reads an operand: an object with a text of SQL is raw, all else is a value. -/
def ofJson (index : Nat) (json : Json) : Except Error Operand :=
  if RawClause.isShape json then (RawClause.ofJson index json).map Operand.raw
  else .ok (.value (.ofJson json))

end Operand

namespace ColumnClause

/-- Reads the elements of a clause: column, operator, operand, connective.  Between two and four of
them are needed. -/
def ofItems (index : Nat) (items : List Json) : Except Error ColumnClause :=
  match items with
  | column :: operator :: rest =>
    if 2 < rest.length then .error (.unsupportedEntry index (.clauseSize items.length))
    else
      match column.string?, operator.string? with
      | none, _ => .error (.unsupportedEntry index .clauseColumn)
      | some _, none => .error (.unsupportedEntry index .clauseOperator)
      | some column, some operator =>
        match rest with
        | [] => .ok { column, operator, operand := none, connective := none }
        | operand :: last => do
          let operand ← Operand.ofJson index operand
          let connective := last.head?.bind connectiveOf?
          .ok { column, operator, operand := some operand, connective }
  | _ => .error (.unsupportedEntry index (.clauseSize items.length))

end ColumnClause

namespace Entry

/-- Whether a text is a bracket, blanks around it aside. -/
def isBracket (s : String) : Bool := trim s == "(" || trim s == ")"

/-- Reads an entry. -/
def ofJson (index : Nat) (json : Json) : Except Error Entry :=
  match json with
  | .string s =>
    if trim s = "(" then .ok (.opening none)
    else if trim s = ")" then .ok .closing
    else .error (.unsupportedEntry index (.strayString (trim s)))
  | .array items =>
    match items with
    | .string first :: rest =>
      if trim first = "(" then .ok (.opening (rest.head?.bind connectiveOf?))
      else if trim first = ")" then .ok .closing
      else (ColumnClause.ofItems index items).map column
    | _ => (ColumnClause.ofItems index items).map column
  | .object _ => (RawClause.ofJson index json).map raw
  | other => .error (.unsupportedEntry index (.strayValue other.compact))

/-- Reads entries, the first of them at a position. -/
def ofItems (index : Nat) : List Json → Except Error (List Entry)
  | [] => .ok []
  | json :: rest => do
    let entry ← ofJson index json
    let entries ← ofItems (index + 1) rest
    .ok (entry :: entries)

/-- Whether the items of a filter are the elements of one clause. -/
def isBareClause : List Json → Bool
  | [] => false
  | .string s :: _ => !isBracket s
  | .array _ :: _ => false
  | .object _ :: _ => false
  | _ :: _ => true

end Entry

namespace Selector

/-- Reads selectors, the first of them at a position. -/
def ofItems (index : Nat) : List Json → Except Error (List Selector)
  | [] => .ok []
  | json :: rest => do
    let selector ←
      match json with
      | .string name => .ok (column name)
      | other => (RawClause.ofJson index other).map raw
    let selectors ← ofItems (index + 1) rest
    .ok (selector :: selectors)

end Selector

namespace OrderTerm

/-- The term an item names, if it names one. -/
def ofJson? : Json → Option OrderTerm
  | .string column => some ⟨column, .asc⟩
  | .array (.string column :: rest) =>
    some ⟨column, ((rest.head?.bind Json.string?).map Direction.parse).getD .asc⟩
  | _ => none

end OrderTerm

/-- The natural number a value is, if it is one of 64 bits. -/
def natural? : Json → Option UInt64
  | .number n => n.uint64?
  | _ => none

namespace Spec

/-- Reads a filter. -/
def readFilter : Option Json → Except Error (List Entry)
  | none | some .null => .ok []
  | some (.array items) =>
    if Entry.isBareClause items then
      (ColumnClause.ofItems 0 items).map fun c => [Entry.column c]
    else Entry.ofItems 0 items
  | some _ => .error (.unsupportedEntry 0 .filterShape)

/-- Reads the selected columns: an array, or names between commas. -/
def readColumns : Option Json → Except Error (List Selector)
  | none | some .null => .ok []
  | some (.string s) => .ok ((commaList s).map Selector.column)
  | some (.array items) => Selector.ofItems 0 items
  | some _ => .error (.unsupportedEntry 0 .columnsShape)

/-- Reads a limit. -/
def readLimit : Option Json → Except Error (Option Limit)
  | none | some .null => .ok none
  | some (.number n) =>
    match n.uint64? with
    | some count => .ok (some (.count count))
    | none => .error (.unsupportedEntry 0 .limitSign)
  | some (.array [offset, count]) =>
    match natural? offset, natural? count with
    | some offset, some count => .ok (some (.range offset count))
    | _, _ => .error (.unsupportedEntry 0 .limitPairSign)
  | some (.array _) => .error (.unsupportedEntry 0 .limitPairSize)
  | some _ => .error (.unsupportedEntry 0 .limitShape)

/-- Reads an order. -/
def readOrder : Option Json → Except Error (List OrderTerm)
  | none | some .null => .ok []
  | some (.string column) => .ok [⟨column, .asc⟩]
  | some (.array items) => .ok (items.filterMap OrderTerm.ofJson?)
  | some _ => .error (.unsupportedEntry 0 .orderShape)

/-- Reads a request. -/
def ofJson (json : Json) : Except Error Spec :=
  match json with
  | .object _ => do
    let filter ← readFilter (json.member? "filter")
    let columns ← readColumns (json.member? "columns")
    let limit ← readLimit (json.member? "limit")
    let order ← readOrder (json.member? "order")
    let connective := (json.member? "operator").bind connectiveOf?
    .ok { filter, columns, limit, order, connective }
  | _ => .error (.unsupportedEntry 0 .notAnObject)

/-- Why a text is no request: a fault of the text, or of the request in it. -/
inductive TextFault
  | json (fault : Json.Fault)
  | request (e : Error)

/-- Reads a request from a text.  A request that is wrong is reported before anything that stands
behind it. -/
def parse (s : String) : Except TextFault Spec :=
  match Json.readValue Json.maxDepth (Json.skipSpace s.toList) with
  | .error fault => .error (.json fault)
  | .ok (json, rest) =>
    match ofJson json with
    | .error e => .error (.request e)
    | .ok spec =>
      match Json.expectEnd rest with
      | .error fault => .error (.json fault)
      | .ok () => .ok spec

end Spec

end FilterStore
