import FilterStore.Number.Decimal
import FilterStore.Number.Pair
import FilterStore.Number.Text
import FilterStore.Sql.Fault
import FilterStore.Sql.Token
import FilterStore.Value.Basic

/-!
# Literals

Texts, blobs and numbers as they are written in statements.  A whole number that does not fit 64
bits is a double.  A hexadecimal number names the bits of an integer, of which there are 64 at most.
A low line between two digits of a number has no meaning, and may stand nowhere else in it.
-/

namespace FilterStore.Sql

/-- The number that digits spell: an integer if it fits, else a double. -/
def integerLiteral (negative : Bool) (digits : List Char) : Cell :=
  let n : Int := Number.ofDigitChars digits
  match Number.int64? (if negative then -n else n) with
  | some n => .integer n
  | none =>
    let numeral : Number.Numeral := { whole := digits, fraction := [], power := 0 }
    .real (Number.withSign negative numeral.toPaired)

/-- The number that a numeral spells. -/
def realLiteral (negative : Bool) (text : List Char) : Cell :=
  match Number.readNumeral text with
  | some (n, _) => .real (Number.withSign negative n.toPaired)
  | none => .null

/-- The value of a hexadecimal digit. -/
def hexDigit (c : Char) : Nat := (Number.hexValue? c).getD 0

/-- The bytes that hexadecimal digits spell. -/
def hexBytes : List Char → List UInt8
  | a :: b :: rest => UInt8.ofNat (16 * hexDigit a + hexDigit b) :: hexBytes rest
  | _ => []

/-- The bytes of a blob literal, its letter and quotes dropped. -/
def blobBytes (text : String) : List UInt8 :=
  hexBytes ((text.toList.drop 2).takeWhile Token.isHexDigit)

/-! ## Numerals -/

/-- Whether a numeral is hexadecimal. -/
def isHex : List Char → Bool
  | '0' :: x :: _ => x == 'x' || x == 'X'
  | _ => false

/-- Whether every low line stands between two digits. -/
def wellSeparated (isDigit : Char → Bool) : List Char → Bool
  | a :: '_' :: b :: rest => isDigit a && isDigit b && wellSeparated isDigit (b :: rest)
  | [_, '_'] => false
  | _ :: rest => wellSeparated isDigit rest
  | [] => true

/-- How many hexadecimal digits an integer has at most. -/
def hexLimit : Nat := 16

/-- The integer whose bits hexadecimal digits spell.  The least integer has no opposite. -/
def hexLiteral (negative : Bool) (text : List Char) (offset : Nat) : Except Fault Cell :=
  let digits := (text.drop 2).dropWhile (· == '0')
  let n := Int64.ofNat (digits.foldl (fun n c => 16 * n + hexDigit c) 0)
  let least := negative && n == Int64.minValue
  if hexLimit < digits.length || least then
    .error (.hexTooBig (String.ofList (if negative then '-' :: text else text)) offset)
  else .ok (.integer (if negative then -n else n))

/-- The number a token spells. -/
def numeral (negative : Bool) (t : Token) : Except Fault Cell :=
  let written := t.text.toList
  let text := written.filter (· != '_')
  let isDigit := if isHex text then Token.isHexDigit else Char.isDigit
  if !wellSeparated isDigit written then .error (.badNumeral t.text)
  else if isHex text then hexLiteral negative text t.offset
  else if t.kind == .integer then .ok (integerLiteral negative text)
  else .ok (realLiteral negative text)

/-- The literal a token spells, if it is one. -/
def literal? (t : Token) : Except Fault (Option Cell) :=
  match t.kind with
  | .integer | .real => (numeral false t).map some
  | .string => .ok (some (.text t.content))
  | .blob => .ok (some (.blob (blobBytes t.text)))
  | .word => .ok (if t.isKeyword "NULL" then some .null else none)
  | _ => .ok none

end FilterStore.Sql
