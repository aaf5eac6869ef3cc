import FilterStore.Json.Reader

/-!
# Reading JSON of a known shape

Where a document has a fixed shape it is read straight into its type, so that the first thing that
does not fit is the one reported: `{"a": 5, ` is a mismatch at `5` if `a` must be a text, although
the text is cut off later.

A *structure* is an object whose members are known by name, or an array that gives them in their
order.  Members may be missing; unknown ones are skipped, and since nothing is made of them they
are held to the form of JSON alone.
-/

namespace FilterStore.Json

open Number (spanDigits)

/-- The fault of a value that stands where another kind is wanted.  A text, number or word is read
first, since it may itself be malformed; of an array or object the bracket says enough. -/
def otherKind (cs : List Char) : Fault :=
  match cs with
  | '[' :: _ => .mismatch
  | '\x7b' :: _ => .mismatch
  | _ =>
    match readValue 0 cs with
    | .ok _ => .mismatch
    | .error fault => fault

/-- Reads a string. -/
def readString : Reader String := fun cs =>
  match cs with
  | '"' :: rest => readStringTail rest
  | _ => .error (otherKind cs)

/-- Reads an array of items. -/
def readList {α : Type} (item : Nat → Reader α) (depth : Nat) : Reader (List α) := fun cs =>
  match cs, depth with
  | '[' :: _, 0 => .error .malformed
  | '[' :: rest, depth + 1 => readItems (item depth) (rest.length + 1) true rest
  | _, _ => .error (otherKind cs)

/-- Puts an entry into a list of entries sorted by name, in place of one of the same name. -/
def insertEntry {α : Type} (name : String) (value : α) : List (String × α) → List (String × α)
  | [] => [(name, value)]
  | (n, v) :: rest =>
    if name == n then (name, value) :: rest
    else if name < n then (name, value) :: (n, v) :: rest
    else (n, v) :: insertEntry name value rest

/-- Reads an object as entries sorted by name. -/
def readMap {α : Type} (value : Nat → Reader α) (depth : Nat) : Reader (List (String × α)) :=
  fun cs =>
    match cs, depth with
    | '\x7b' :: _, 0 => .error .malformed
    | '\x7b' :: rest, depth + 1 =>
      let member := fun (acc : List (String × α)) name cs =>
        (expectColon cs).bind fun cs =>
          (value depth cs).map fun (v, rest) => (insertEntry name v acc, rest)
      readMembers member (rest.length + 1) true [] rest
    | _, _ => .error (otherKind cs)

/-- Skips the inside of a string and its closing quote.  `fuel` bounds the characters. -/
def skipStringBody : Nat → List Char → Option (List Char)
  | 0, _ => none
  | _ + 1, [] => none
  | fuel + 1, c :: rest =>
    if c = '"' then some rest
    else if c.toNat < 0x20 then none
    else if c = '\\' then
      match rest with
      | 'u' :: rest => (readHex4 rest).bind fun (_, rest) => skipStringBody fuel rest
      | e :: rest => (escaped? e).bind fun _ => skipStringBody fuel rest
      | [] => none
    else skipStringBody fuel rest

/-- Skips the rest of a string. -/
def skipStringTail (cs : List Char) : Except Fault (List Char) :=
  match skipStringBody (cs.length + 1) cs with
  | some rest => .ok rest
  | none => .error .malformed

/-- Skips the name of a member. -/
def skipName : Reader Unit := fun cs =>
  match cs with
  | '"' :: rest => (skipStringTail rest).map fun rest => ((), rest)
  | _ => .error .malformed

/-- Skips a number, however large. -/
def skipNumber (cs : List Char) : Except Fault (List Char) :=
  let unsigned :=
    match cs with
    | '-' :: rest => rest
    | _ => cs
  match readLiteral unsigned with
  | some (_, _, rest) => .ok rest
  | none => .error .malformed

/-- Skips a value, nested however deep.  `fuel` bounds the nesting. -/
def skipValue : Nat → Reader Unit
  | 0, _ => .error .malformed
  | fuel + 1, cs =>
    match cs with
    | [] => .error .malformed
    | c :: rest =>
      let unit := fun (rest : List Char) => ((), rest)
      if c = 'n' then (expectWord ['u', 'l', 'l'] rest).map unit
      else if c = 't' then (expectWord ['r', 'u', 'e'] rest).map unit
      else if c = 'f' then (expectWord ['a', 'l', 's', 'e'] rest).map unit
      else if c = '"' then (skipStringTail rest).map unit
      else if c = '[' then
        (readItems (skipValue fuel) (rest.length + 1) true rest).map fun (_, rest) => ((), rest)
      else if c = '\x7b' then
        let member := fun (_ : Unit) (_ : Unit) cs =>
          (expectColon cs).bind fun cs => skipValue fuel cs
        readNamed skipName member (rest.length + 1) true () rest
      else (skipNumber cs).map unit

/-- A member of a structure: its name, and how its value is read into the structure. -/
structure Member (σ : Type) where
  name : String
  read : Nat → σ → Reader σ

/-- Reads the values of members in their order, as the rest of an array.  Missing values at the end
leave the structure as it is; there may be none beyond the last member. -/
def readTuple {σ : Type} (depth : Nat) : List (Member σ) → Bool → σ → Reader σ
  | [], _, acc, cs =>
    match skipSpace cs with
    | ']' :: rest => .ok (acc, rest)
    | _ => .error .malformed
  | m :: ms, first, acc, cs =>
    match skipSpace cs with
    | ']' :: rest => .ok (acc, rest)
    | cs => do
      let cs ←
        if first then .ok cs
        else
          match cs with
          | ',' :: rest => .ok (skipSpace rest)
          | _ => .error .malformed
      let (acc, rest) ← m.read depth acc cs
      readTuple depth ms false acc rest

/-- Reads a member of an object into a structure.  A name that was there before is a mismatch. -/
def readMember {σ : Type} (members : List (Member σ)) (depth : Nat) (acc : List String × σ)
    (name : String) : Reader (List String × σ) := fun cs =>
  match members.find? fun m => m.name == name with
  | some m =>
    if acc.1.contains name then .error .mismatch
    else do
      let cs ← expectColon cs
      let (value, rest) ← m.read depth acc.2 cs
      .ok ((name :: acc.1, value), rest)
  | none => do
    let cs ← expectColon cs
    let ((), rest) ← skipValue (cs.length + 1) cs
    .ok (acc, rest)

/-- Reads a structure whose missing members are those of `start`. -/
def readStructure {σ : Type} (members : List (Member σ)) (start : σ) (depth : Nat) : Reader σ :=
  fun cs =>
    match cs, depth with
    | '[' :: _, 0 => .error .malformed
    | '\x7b' :: _, 0 => .error .malformed
    | '[' :: rest, depth + 1 => readTuple depth members true start rest
    | '\x7b' :: rest, depth + 1 =>
      (readMembers (readMember members depth) (rest.length + 1) true ([], start) rest).map
        fun (acc, rest) => (acc.2, rest)
    | _, _ => .error (otherKind cs)

/-- Reads a text that holds one value of a shape. -/
def parseAs {α : Type} (read : Nat → Reader α) (s : String) : Except Fault α := do
  let (value, rest) ← read maxDepth (skipSpace s.toList)
  expectEnd rest
  .ok value

end FilterStore.Json
