/-!
# Errors of the schema, of values and of filters

An error says what was wrong and where; its wording is one function, `Error.message`.  Positions
count the entries of a filter (or the terms of an order) from zero.

All of these are found before any statement reaches the database.
-/

namespace FilterStore

/-- What can be given a name. -/
inductive NameKind
  | table
  | column
  | index
  | trigger
  /-- The column of an index that names none. -/
  | indexColumn
  deriving DecidableEq, Repr

def NameKind.label : NameKind → String
  | table => "table"
  | column => "column"
  | index => "index"
  | trigger => "trigger"
  | indexColumn => "index column"

/-- Why an operand does not suit its operator. -/
inductive OperandFault
  /-- An operator on a subquery got something else. -/
  | needsSubquery
  /-- A range needs two bounds. -/
  | needsTwoValues (found : Nat)
  | needsSomeValue
  /-- Comparing with all rows of a subquery is not possible. -/
  | subqueryQuantifier
  | missingValue
  | missingList
  | listForSingle (size : Nat)
  | rawForList
  /-- An update without a field. -/
  | emptyRecord
  deriving DecidableEq, Repr

def OperandFault.message : OperandFault → String
  | needsSubquery => "requires a raw subquery operand"
  | needsTwoValues found => "requires exactly 2 values, found " ++ toString found
  | needsSomeValue => "requires at least one value"
  | subqueryQuantifier =>
    "quantified comparison over a subquery is not supported; pass a list"
  | missingValue => "requires a value"
  | missingList => "requires a list of values"
  | listForSingle size => "expects a single value, found a list of " ++ toString size
  | rawForList => "does not accept a raw clause"
  | emptyRecord => "record has no columns to set"

/-- Why an entry of a request cannot be used. -/
inductive EntryFault
  | notAnObject
  | filterShape
  | columnsShape
  | limitSign
  | limitPairSign
  | limitPairSize
  | limitShape
  | orderShape
  | clauseSize (found : Nat)
  | clauseColumn
  | clauseOperator
  | strayString (s : String)
  | strayValue (json : String)
  | rawWithoutSql
  | rawValuesShape
  | rawBlank
  | rawArity (placeholders values : Nat)
  | closeWithoutOpen
  | emptyGroup
  | leftOpen (groups : Nat)
  | orderNotAColumn
  deriving DecidableEq, Repr

def EntryFault.message : EntryFault → String
  | notAnObject => "filter spec must be a JSON object"
  | filterShape => "'filter' must be an array"
  | columnsShape => "'columns' must be an array or string"
  | limitSign => "'limit' must be a non-negative integer"
  | limitPairSign => "'limit' must hold non-negative integers"
  | limitPairSize => "'limit' pair must be [offset, count]"
  | limitShape => "'limit' must be a number or [offset, count]"
  | orderShape => "'order' must be an array or string"
  | clauseSize found => "clause must have 2 to 4 elements, found " ++ toString found
  | clauseColumn => "clause column must be a string"
  | clauseOperator => "clause operator must be a string"
  | strayString s => "unexpected string '" ++ s ++ "'"
  | strayValue json => "unexpected value " ++ json
  | rawWithoutSql => "raw clause needs a string 'sql' field"
  | rawValuesShape => "raw clause 'values' must be an array"
  | rawBlank => "raw clause has no SQL text"
  | rawArity placeholders values =>
    "raw clause has " ++ toString placeholders ++ " placeholder(s) but " ++ toString values ++
      " value(s)"
  | closeWithoutOpen => "closing bracket without an open group"
  | emptyGroup => "empty bracket group"
  | leftOpen groups => toString groups ++ " bracket group(s) left open"
  | orderNotAColumn => "order term must be a column name"

/-- Why a value has no form in the database. -/
inductive Unencodable
  | list (size : Nat)
  | object (keys : List String)
  deriving DecidableEq, Repr

def Unencodable.message : Unencodable → String
  | list size => "list of " ++ toString size ++ " element(s) outside a list operator"
  | object keys => "object with keys [" ++ ", ".intercalate keys ++ "] has no string conversion"

/-- Where a value without a form in the database stood. -/
inductive Place
  /-- On its own. -/
  | bare
  /-- In a field of a record. -/
  | field (index : Nat) (column : String)
  /-- In an entry of a filter. -/
  | entry (index : Nat) (column : String)
  deriving DecidableEq, Repr

/-- An error found before any statement reaches the database. -/
inductive Error
  | invalidName (kind : NameKind) (name : String)
  | unknownTable (name : String)
  | unknownColumn (table column : String)
  | unknownOperator (index : Nat) (operator : String)
  | invalidOperand (index : Nat) (operator : String) (fault : OperandFault)
  | unsupportedEntry (index : Nat) (fault : EntryFault)
  | unencodable (place : Place) (cause : Unencodable)
  | schemaLocked (table : String)
  deriving DecidableEq, Repr

/-- How a value without a form in the database is reported, its place left aside. -/
def Unencodable.report (cause : Unencodable) : String :=
  "value cannot be encoded as a bound parameter: " ++ cause.message

def Error.message : Error → String
  | invalidName kind name =>
    "invalid " ++ kind.label ++ " name '" ++ name ++
      "': must be non-empty and contain only alphanumeric characters and underscores"
  | unknownTable name => "unknown table: " ++ name
  | unknownColumn table column => "unknown column '" ++ column ++ "' on table '" ++ table ++ "'"
  | unknownOperator index operator =>
    "unknown operator '" ++ operator ++ "' in filter entry " ++ toString index
  | invalidOperand index operator fault =>
    "invalid operand for " ++ operator ++ " in filter entry " ++ toString index ++ ": " ++
      fault.message
  | unsupportedEntry index fault =>
    "unsupported filter entry " ++ toString index ++ ": " ++ fault.message
  | unencodable .bare cause => cause.report
  | unencodable (.field index column) cause =>
    "value cannot be encoded as a bound parameter: field " ++ toString index ++ " ('" ++ column ++
      "'): " ++ cause.report
  | unencodable (.entry index column) cause =>
    "value cannot be encoded as a bound parameter: filter entry " ++ toString index ++ " ('" ++
      column ++ "'): " ++ cause.report
  | schemaLocked table =>
    "schema is locked; cannot modify table '" ++ table ++ "' after migrations have executed"

end FilterStore
