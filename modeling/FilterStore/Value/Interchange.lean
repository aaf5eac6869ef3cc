import FilterStore.Calendar.Stamp
import FilterStore.Json.Printer
import FilterStore.Value.Basic

/-!
# Values and cells as JSON

Writing is total: a date becomes its interchange text, a blob the array of its bytes, and a double
that is not finite becomes `null`.

Reading is total too.  For a *value* an array is a list and an object stays an object.  For a *cell*
an array of bytes is a blob, a yes or no is 1 or 0, and anything else with structure is kept as its
compact text.  So several JSON values may be read as one cell, but a cell that is written and read
is itself again, and reading is stable from the first time on.
-/

namespace FilterStore

/-- The bytes of a blob as an array. -/
def blobJson (bytes : List UInt8) : Json :=
  .array (bytes.map fun b => .number (.ofUInt8 b))

mutual

/-- A value as JSON. -/
def Value.toJson : Value → Json
  | .null => .null
  | .bool b => .bool b
  | .integer n => .number (.ofInt64 n)
  | .real x => .ofFloat x
  | .text s => .string s
  | .blob bytes => blobJson bytes
  | .date d => .string d.interchange
  | .list items => .array (Value.listToJson items)
  | .object members => .object members

/-- Values as the items of an array. -/
def Value.listToJson : List Value → List Json
  | [] => []
  | item :: rest => item.toJson :: Value.listToJson rest

end

mutual

/-- JSON as a value.  An integer too large for 64 bits with a sign is the nearest double. -/
def Value.ofJson : Json → Value
  | .null => .null
  | .bool b => .bool b
  | .number n =>
    match n.int64? with
    | some i => .integer i
    | none => .real n.toFloat
  | .string s => .text s
  | .array items => .list (Value.listOfJson items)
  | .object members => .object members

/-- The items of an array as values. -/
def Value.listOfJson : List Json → List Value
  | [] => []
  | item :: rest => .ofJson item :: Value.listOfJson rest

end

/-- A cell as JSON. -/
def Cell.toJson : Cell → Json
  | .null => .null
  | .integer n => .number (.ofInt64 n)
  | .real x => .ofFloat x
  | .text s => .string s
  | .blob bytes => blobJson bytes

/-- The byte a JSON value is, if it is an integer below 256. -/
def byte? : Json → Option UInt8
  | .number n => n.uint64?.bind fun u => if u.toNat < 256 then some u.toUInt8 else none
  | _ => none

/-- JSON as a cell. -/
def Cell.ofJson (json : Json) : Cell :=
  match json with
  | .null => .null
  | .bool b => Value.flag b
  | .number n =>
    match n.int64? with
    | some i => .integer i
    | none => .real n.toFloat
  | .string s => .text s
  | .array items =>
    match items.mapM byte? with
    | some bytes => .blob bytes
    | none => .text json.compact
  | .object _ => .text json.compact

end FilterStore
