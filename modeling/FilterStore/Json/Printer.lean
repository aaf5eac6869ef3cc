import FilterStore.Json.Basic
import FilterStore.Number.Text

/-!
# Written JSON

The *compact* form has no blank outside strings.  The *indented* form puts every item and member on
a line of its own, two spaces deeper than the bracket around it; an empty array or object stays on
its line.  Both write an object's members in the order of the list.

In strings, only the quote, the backslash and the control characters below U+0020 are escaped.
-/

namespace FilterStore

open Number (digitChars)

/-- A digit of base sixteen in lower case. -/
def hexDigit (n : Nat) : Char :=
  if n < 10 then Char.ofNat ('0'.toNat + n) else Char.ofNat ('a'.toNat + n - 10)

namespace Json

/-- A character inside a JSON string. -/
def escape (c : Char) : List Char :=
  if c = '"' then ['\\', '"']
  else if c = '\\' then ['\\', '\\']
  else if 0x20 ≤ c.toNat then [c]
  else if c = '\x08' then ['\\', 'b']
  else if c = '\t' then ['\\', 't']
  else if c = '\n' then ['\\', 'n']
  else if c = '\x0c' then ['\\', 'f']
  else if c = '\r' then ['\\', 'r']
  else ['\\', 'u', '0', '0', hexDigit (c.toNat / 16), hexDigit (c.toNat % 16)]

/-- A JSON string with its quotes. -/
def stringText (s : String) : String :=
  String.ofList ('"' :: (s.toList.flatMap escape ++ ['"']))

/-- The text of a number. -/
def numberText : JsonNumber → String
  | .integer n _ =>
    String.ofList (if n < 0 then '-' :: digitChars n.natAbs else digitChars n.natAbs)
  | .float x _ => Number.jsonText x

mutual

/-- The compact form. -/
def compact : Json → String
  | null => "null"
  | bool true => "true"
  | bool false => "false"
  | number n => numberText n
  | string s => stringText s
  | array items => "[" ++ compactItems items ++ "]"
  | object members => "\x7b" ++ compactMembers members ++ "\x7d"

/-- The items of an array with commas between them. -/
def compactItems : List Json → String
  | [] => ""
  | [item] => compact item
  | item :: rest => compact item ++ "," ++ compactItems rest

/-- The members of an object with commas between them. -/
def compactMembers : List (String × Json) → String
  | [] => ""
  | [(name, value)] => stringText name ++ ":" ++ compact value
  | (name, value) :: rest =>
    stringText name ++ ":" ++ compact value ++ "," ++ compactMembers rest

end

/-- The start of a line at a depth. -/
def newLine (depth : Nat) : String := "\n" ++ String.ofList (List.replicate (2 * depth) ' ')

mutual

/-- The indented form; `depth` is how many brackets are open around the value. -/
def indented (depth : Nat) : Json → String
  | array [] => "[]"
  | object [] => "\x7b\x7d"
  | array items => "[" ++ indentedItems (depth + 1) items ++ newLine depth ++ "]"
  | object members => "\x7b" ++ indentedMembers (depth + 1) members ++ newLine depth ++ "\x7d"
  | null => "null"
  | bool true => "true"
  | bool false => "false"
  | number n => numberText n
  | string s => stringText s

/-- The items of an array, each on a line of its own. -/
def indentedItems (depth : Nat) : List Json → String
  | [] => ""
  | [item] => newLine depth ++ indented depth item
  | item :: rest => newLine depth ++ indented depth item ++ "," ++ indentedItems depth rest

/-- The members of an object, each on a line of its own. -/
def indentedMembers (depth : Nat) : List (String × Json) → String
  | [] => ""
  | [(name, value)] => newLine depth ++ stringText name ++ ": " ++ indented depth value
  | (name, value) :: rest =>
    newLine depth ++ stringText name ++ ": " ++ indented depth value ++ "," ++
      indentedMembers depth rest

end

/-- A whole document in the indented form. -/
def pretty (value : Json) : String := indented 0 value

end Json

end FilterStore
