import FilterStore.Calendar.Instant
import FilterStore.Json.Basic

/-!
# Values and cells

A *value* is what an application hands in and gets back: it may be a date, a list of values or a
structured object.  A *cell* is what the database stores and what a statement binds: the engine
knows no dates, no lists and no objects.  How one becomes the other is the subject of
`FilterStore.Value.Storage`.
-/

namespace FilterStore

/-- A value of an application. -/
inductive Value
  | null
  | bool (b : Bool)
  | integer (n : Int64)
  | real (x : Float)
  | text (s : String)
  | blob (bytes : List UInt8)
  | date (d : Calendar.Instant)
  /-- Values for an operator that takes several. -/
  | list (items : List Value)
  /-- A structured value; it has no form in the database. -/
  | object (members : List (String × Json))
  deriving Inhabited

/-- A value of the database engine. -/
inductive Cell
  | null
  | integer (n : Int64)
  | real (x : Float)
  | text (s : String)
  | blob (bytes : List UInt8)
  deriving Inhabited

namespace Value

/-- The name of a value's kind. -/
def kind : Value → String
  | null => "null"
  | bool _ => "bool"
  | integer _ => "integer"
  | real _ => "real"
  | text _ => "text"
  | blob _ => "blob"
  | date _ => "date"
  | list _ => "list"
  | object _ => "object"

def isNull : Value → Bool
  | null => true
  | _ => false

def isDate : Value → Bool
  | date _ => true
  | _ => false

def integer? : Value → Option Int64
  | integer n => some n
  | _ => none

def text? : Value → Option String
  | text s => some s
  | _ => none

def date? : Value → Option Calendar.Instant
  | date d => some d
  | _ => none

/-- A yes or no as the engine stores it. -/
def flag (b : Bool) : Cell := .integer (if b then 1 else 0)

end Value

/-- A cell is a value of the same kind. -/
def Cell.toValue : Cell → Value
  | null => .null
  | integer n => .integer n
  | real x => .real x
  | text s => .text s
  | blob bytes => .blob bytes

end FilterStore
