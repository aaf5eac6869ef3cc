import FilterStore.Text.Letter
import FilterStore.Value.Interchange

/-!
# Records

A record is one row as an application sees it: named values in the order the names were first set.
Names are the same up to the case of ASCII letters, and a field keeps the spelling and the place it
was first given.
-/

namespace FilterStore

open Text (sameName)

/-- Named values in order. -/
structure Record where
  fields : List (String × Value)
  deriving Inhabited

namespace Record

/-- The record without fields. -/
def empty : Record := ⟨[]⟩

/-- Sets a field in a list of fields: in place if the name is there, else at the end. -/
def put (name : String) (value : Value) : List (String × Value) → List (String × Value)
  | [] => [(name, value)]
  | (n, v) :: rest =>
    if sameName n name then (n, value) :: rest else (n, v) :: put name value rest

/-- Drops the first field of a name from a list of fields. -/
def drop (name : String) : List (String × Value) → List (String × Value)
  | [] => []
  | (n, v) :: rest => if sameName n name then rest else (n, v) :: drop name rest

/-- Sets a field. -/
def set (r : Record) (name : String) (value : Value) : Record := ⟨put name value r.fields⟩

/-- The value of a field. -/
def get? (r : Record) (name : String) : Option Value :=
  (r.fields.find? fun f => sameName f.1 name).map (·.2)

/-- Whether the record has a field of that name. -/
def contains (r : Record) (name : String) : Bool := (r.get? name).isSome

/-- Drops a field. -/
def erase (r : Record) (name : String) : Record := ⟨drop name r.fields⟩

/-- Changes a field that is there; a record without it stays as it is. -/
def replace (r : Record) (name : String) (value : Value) : Record :=
  if r.contains name then r.set name value else r

/-- Sets the given fields one after the other. -/
def setAll (r : Record) (fields : List (String × Value)) : Record :=
  fields.foldl (fun r f => r.set f.1 f.2) r

/-- The record with the given fields; a name given again changes the field in its place. -/
def ofList (fields : List (String × Value)) : Record := empty.setAll fields

/-- The names in order. -/
def columns (r : Record) : List String := r.fields.map (·.1)

/-- How many fields there are. -/
def size (r : Record) : Nat := r.fields.length

def isEmpty (r : Record) : Bool := r.fields.isEmpty

/-- A record as a JSON object, members sorted by name. -/
def toJson (r : Record) : Json := .ofMembers (r.fields.map fun f => (f.1, f.2.toJson))

end Record

end FilterStore
