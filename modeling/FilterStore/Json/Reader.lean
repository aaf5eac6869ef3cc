import FilterStore.Json.Basic
import FilterStore.Number.Decimal

/-!
# Reading JSON

A reader takes the characters that are left and answers with a value and what is left behind it, or
with a fault.  A text is *malformed* if it is not JSON; it is a *mismatch* if it is JSON of another
shape than the one asked for.  Since a reader stops at the first fault, a text with both kinds
shows the one that comes first.

Arrays and objects may be nested 127 deep.  The depth still allowed is the measure of the recursion;
inside one array or object, each item or member takes at least one character.
-/

namespace FilterStore.Json

open Number (spanDigits readSign readPower Numeral ofDigitChars hexValue?)

/-- Why a text could not be read. -/
inductive Fault
  /-- Not JSON, or cut off. -/
  | malformed
  /-- JSON of the wrong shape. -/
  | mismatch
  deriving DecidableEq, Repr

/-- A reader of a value from the front of a text. -/
abbrev Reader (α : Type) := List Char → Except Fault (α × List Char)

/-- The blanks of JSON. -/
def isSpace (c : Char) : Bool := c == ' ' || c == '\t' || c == '\n' || c == '\r'

/-- Drops blanks. -/
def skipSpace (cs : List Char) : List Char := cs.dropWhile isSpace

/-- How deep arrays and objects may be nested. -/
def maxDepth : Nat := 127

/-- Reads four digits of base sixteen. -/
def readHex4 : List Char → Option (Nat × List Char)
  | a :: b :: c :: d :: rest => do
    let a ← hexValue? a
    let b ← hexValue? b
    let c ← hexValue? c
    let d ← hexValue? d
    some (4096 * a + 256 * b + 16 * c + d, rest)
  | _ => none

/-- Reads what follows `\u`: one code unit, or two that form a surrogate pair. -/
def readUnicode (cs : List Char) : Option (Char × List Char) := do
  let (unit, rest) ← readHex4 cs
  if 0xD800 ≤ unit ∧ unit ≤ 0xDBFF then
    match rest with
    | '\\' :: 'u' :: rest =>
      let (low, rest) ← readHex4 rest
      if 0xDC00 ≤ low ∧ low ≤ 0xDFFF then
        some (Char.ofNat (0x10000 + 0x400 * (unit - 0xD800) + (low - 0xDC00)), rest)
      else none
    | _ => none
  else if 0xDC00 ≤ unit ∧ unit ≤ 0xDFFF then none
  else some (Char.ofNat unit, rest)

/-- The character a one-letter escape stands for. -/
def escaped? (c : Char) : Option Char :=
  if c = '"' ∨ c = '\\' ∨ c = '/' then some c
  else if c = 'b' then some '\x08'
  else if c = 'f' then some '\x0c'
  else if c = 'n' then some '\n'
  else if c = 'r' then some '\r'
  else if c = 't' then some '\t'
  else none

/-- Reads the inside of a string and its closing quote.  `fuel` bounds the characters. -/
def readStringBody : Nat → List Char → Option (List Char × List Char)
  | 0, _ => none
  | _ + 1, [] => none
  | fuel + 1, c :: rest =>
    if c = '"' then some ([], rest)
    else if c.toNat < 0x20 then none
    else if c = '\\' then
      match rest with
      | 'u' :: rest => do
        let (c, rest) ← readUnicode rest
        let (cs, rest) ← readStringBody fuel rest
        some (c :: cs, rest)
      | e :: rest => do
        let c ← escaped? e
        let (cs, rest) ← readStringBody fuel rest
        some (c :: cs, rest)
      | [] => none
    else do
      let (cs, rest) ← readStringBody fuel rest
      some (c :: cs, rest)

/-- Reads the rest of a string whose opening quote has been taken. -/
def readStringTail : Reader String := fun cs =>
  match readStringBody (cs.length + 1) cs with
  | some (s, rest) => .ok (String.ofList s, rest)
  | none => .error .malformed

/-- Reads an unsigned JSON numeral: no superfluous leading zero, digits on both sides of a point,
digits in an exponent.  The flag says whether it is an integer literal. -/
def readLiteral (cs : List Char) : Option (Numeral × Bool × List Char) := do
  let (whole, rest) := spanDigits cs
  if whole.isEmpty || (whole.length != 1 && whole.head? == some '0') then none
  else
    let (fraction, pointed, rest) ←
      match rest with
      | '.' :: more =>
        let (fraction, rest) := spanDigits more
        if fraction.isEmpty then none else some (fraction, true, rest)
      | _ => some ([], false, rest)
    match rest with
    | c :: _ =>
      if c == 'e' || c == 'E' then
        (readPower rest).map fun (power, rest) => ({ whole, fraction, power }, false, rest)
      else some ({ whole, fraction, power := 0 }, !pointed, rest)
    | [] => some ({ whole, fraction, power := 0 }, !pointed, rest)

/-- The number of a literal.  An integer literal that fits is an integer, except that `-0` is a
double; any other literal is the nearest double, and one beyond all doubles is malformed. -/
def numberOf (negative : Bool) (n : Numeral) (integral : Bool) : Except Fault JsonNumber :=
  let size := ofDigitChars n.whole
  let value : Int := if negative then -(size : Int) else size
  if h : integral = true ∧ (Number.minInt64 ≤ value ∧ value < 0x10000000000000000) ∧
      ¬ (negative = true ∧ size = 0) then
    .ok (.integer value h.2.1)
  else
    match JsonNumber.ofFloat? (Number.withSign negative n.toFloat) with
    | some x => .ok x
    | none => .error .malformed

/-- Reads a number. -/
def readNumber : Reader JsonNumber := fun cs =>
  let (negative, rest) :=
    match cs with
    | '-' :: rest => (true, rest)
    | _ => (false, cs)
  match readLiteral rest with
  | some (n, integral, rest) => do
    let value ← numberOf negative n integral
    .ok (value, rest)
  | none => .error .malformed

/-- Drops an expected word. -/
def expectWord (word : List Char) (cs : List Char) : Except Fault (List Char) :=
  if word.isPrefixOf cs then .ok (cs.drop word.length) else .error .malformed

/-- Reads the rest of an array: items between commas, and the closing bracket.  `first` is whether
no item has been read. -/
def readItems {α : Type} (item : Reader α) : Nat → Bool → Reader (List α)
  | 0, _, _ => .error .malformed
  | fuel + 1, first, cs =>
    match skipSpace cs with
    | ']' :: rest => .ok ([], rest)
    | cs => do
      let cs ←
        if first then .ok cs
        else
          match cs with
          | ',' :: rest => .ok (skipSpace rest)
          | _ => .error .malformed
      let (value, rest) ← item cs
      let (values, rest) ← readItems item fuel false rest
      .ok (value :: values, rest)

/-- Reads the name of a member. -/
def readName : Reader String := fun cs =>
  match cs with
  | '"' :: rest => readStringTail rest
  | _ => .error .malformed

/-- Drops the colon between the name of a member and its value. -/
def expectColon (cs : List Char) : Except Fault (List Char) :=
  match skipSpace cs with
  | ':' :: rest => .ok (skipSpace rest)
  | _ => .error .malformed

/-- Reads the rest of an object: members between commas, and the closing bracket.  `name` reads
their names.  How the colon and the value are read may depend on the name and on the members
before. -/
def readNamed {ν σ : Type} (name : Reader ν) (member : σ → ν → Reader σ) :
    Nat → Bool → σ → Reader σ
  | 0, _, _, _ => .error .malformed
  | fuel + 1, first, acc, cs =>
    match skipSpace cs with
    | '\x7d' :: rest => .ok (acc, rest)
    | cs => do
      let cs ←
        if first then .ok cs
        else
          match cs with
          | ',' :: rest => .ok (skipSpace rest)
          | _ => .error .malformed
      let (name', rest) ← name cs
      let (acc, rest) ← member acc name' rest
      readNamed name member fuel false acc rest

/-- Reads the rest of an object whose members have texts for names. -/
def readMembers {σ : Type} (member : σ → String → Reader σ) : Nat → Bool → σ → Reader σ :=
  readNamed readName member

/-- Reads a value nested at most `depth` deep.  Members of an object are sorted by name, and of
members of one name the last counts. -/
def readValue : Nat → Reader Json
  | depth, cs =>
    match cs with
    | [] => .error .malformed
    | c :: rest =>
      if c = 'n' then (expectWord ['u', 'l', 'l'] rest).map fun rest => (.null, rest)
      else if c = 't' then (expectWord ['r', 'u', 'e'] rest).map fun rest => (.bool true, rest)
      else if c = 'f' then
        (expectWord ['a', 'l', 's', 'e'] rest).map fun rest => (.bool false, rest)
      else if c = '"' then (readStringTail rest).map fun (s, rest) => (.string s, rest)
      else if c = '[' then
        match depth with
        | 0 => .error .malformed
        | depth + 1 =>
          (readItems (readValue depth) (rest.length + 1) true rest).map fun (items, rest) =>
            (.array items, rest)
      else if c = '\x7b' then
        match depth with
        | 0 => .error .malformed
        | depth + 1 =>
          let member := fun (acc : List (String × Json)) name cs =>
            (expectColon cs).bind fun cs =>
              (readValue depth cs).map fun (value, rest) => (insertMember name value acc, rest)
          (readMembers member (rest.length + 1) true [] rest).map fun (members, rest) =>
            (.object members, rest)
      else (readNumber cs).map fun (n, rest) => (.number n, rest)

/-- Fails unless nothing but blanks is left. -/
def expectEnd (cs : List Char) : Except Fault Unit :=
  if (skipSpace cs).isEmpty then .ok () else .error .malformed

/-- Reads a text that holds one value. -/
def parse (s : String) : Except Fault Json := do
  let (value, rest) ← readValue maxDepth (skipSpace s.toList)
  expectEnd rest
  .ok value

end FilterStore.Json
