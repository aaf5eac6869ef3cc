import FilterStore.Number.Binary

/-!
# JSON values

A JSON number is an integer between `-2 ^ 63` and `2 ^ 64 - 1` or a finite double; the two kinds do
not meet, `1` and `1.0` are different values.  Infinities and NaN have no JSON number, so the bounds
are part of the type and every number can be written.

An object is a list of members.  Objects that were read have their members sorted by name, each name
once (`Json.insertMember`); a document that is written lists its members in the order it wants them
written.
-/

namespace FilterStore

/-- A JSON number. -/
inductive JsonNumber
  | integer (n : Int) (inRange : Number.minInt64 ≤ n ∧ n < 0x10000000000000000)
  | float (x : Float) (finite : x.isFinite = true)

/-- A JSON value. -/
inductive Json
  | null
  | bool (b : Bool)
  | number (n : JsonNumber)
  | string (s : String)
  | array (items : List Json)
  | object (members : List (String × Json))
  deriving Inhabited

namespace JsonNumber

/-- The integer of a number, if it fits 64 bits with a sign. -/
def int64? : JsonNumber → Option Int64
  | integer n _ => Number.int64? n
  | float _ _ => none

/-- The integer of a number, if it fits 64 bits without a sign. -/
def uint64? : JsonNumber → Option UInt64
  | integer n _ => if 0 ≤ n then some (UInt64.ofNat n.toNat) else none
  | float _ _ => none

/-- The nearest double. -/
def toFloat : JsonNumber → Float
  | integer n _ => Float.ofInt n
  | float x _ => x

/-- A word of 64 bits as a number. -/
def ofInt64 (n : Int64) : JsonNumber :=
  .integer n.toInt (by
    have h1 := n.le_toInt
    have h2 := n.toInt_lt
    simp only [Number.minInt64]
    omega)

/-- A natural number of 64 bits as a number. -/
def ofUInt64 (n : UInt64) : JsonNumber :=
  .integer n.toNat (by
    have h := n.toNat_lt
    simp only [Number.minInt64]
    omega)

/-- A byte as a number. -/
def ofUInt8 (n : UInt8) : JsonNumber :=
  .integer n.toNat (by
    have h := n.toNat_lt
    simp only [Number.minInt64]
    omega)

/-- A double as a number; infinities and NaN have none. -/
def ofFloat? (x : Float) : Option JsonNumber :=
  if h : x.isFinite = true then some (.float x h) else none

end JsonNumber

namespace Json

/-- A double as JSON; what is not finite becomes `null`. -/
def ofFloat (x : Float) : Json :=
  match JsonNumber.ofFloat? x with
  | some n => .number n
  | none => .null

/-- Puts a member into a sorted list of members, in place of one of the same name. -/
def insertMember (name : String) (value : Json) :
    List (String × Json) → List (String × Json)
  | [] => [(name, value)]
  | (n, v) :: rest =>
    if name == n then (name, value) :: rest
    else if name < n then (name, value) :: (n, v) :: rest
    else (n, v) :: insertMember name value rest

/-- The object with the given members; of members of one name the last counts. -/
def ofMembers (members : List (String × Json)) : Json :=
  .object (members.foldl (fun acc m => insertMember m.1 m.2 acc) [])

/-- The string a value is, if it is one. -/
def string? : Json → Option String
  | string s => some s
  | _ => none

/-- The member of an object. -/
def member? (name : String) : Json → Option Json
  | object members => (members.find? fun m => m.1 == name).map (·.2)
  | _ => none

end Json

end FilterStore
