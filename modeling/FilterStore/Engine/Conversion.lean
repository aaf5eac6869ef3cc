import FilterStore.Number.Pair
import FilterStore.Number.Text
import FilterStore.Schema.Affinity
import FilterStore.Text.Bytes
import FilterStore.Value.Basic

/-!
# How the engine converts cells

A column leans what is stored in it towards its affinity: a text that spells a number becomes that
number in a numeric column, and a number becomes its text in a text column.  What has no such form
is stored as it is.  A double without a fraction counts as an integer, except in a column of
doubles, where integers become doubles.

Arithmetic takes the number that a text starts with, and zero if it starts with none.
-/

namespace FilterStore.Engine

open Number (Decimal readSign withSign readNumeral spanDigits int64? clampInt64 ofDigitChars)

/-- The blanks the engine skips around a number. -/
def isBlank (c : Char) : Bool :=
  let n := c.toNat
  n == 0x20 || (0x09 ≤ n && n ≤ 0x0d)

/-- Whether a numeral is written without fraction and exponent. -/
def isWhole (written : List Char) : Bool := !written.isEmpty && written.all Char.isDigit

/-- The number a text starts with, blanks in front of it aside, and what stands behind it. -/
def leadingNumber? (cs : List Char) : Option (Cell × List Char) :=
  let (negative, body) := readSign (cs.dropWhile isBlank)
  (readNumeral body).map fun (n, rest) =>
    let double := Cell.real (withSign negative n.toPaired)
    let written := body.take (body.length - rest.length)
    let size : Int := ofDigitChars written
    let whole := if isWhole written then int64? (if negative then -size else size) else none
    ((whole.map Cell.integer).getD double, rest)

/-- The number a text spells, blanks around it aside. -/
def numberOfText? (s : String) : Option Cell :=
  match leadingNumber? s.toList with
  | some (c, rest) => if rest.all isBlank then some c else none
  | none => none

/-- The double a text starts with; zero, with the sign there is, if it starts with none. -/
def leadingDouble (s : String) : Float :=
  let (negative, body) := readSign (s.toList.dropWhile isBlank)
  withSign negative (((readNumeral body).map fun (n, _) => n.toPaired).getD 0.0)

/-- The integer a text starts with, cut to 64 bits; zero if it starts with none. -/
def leadingInteger (s : String) : Int64 :=
  let (negative, body) := readSign (s.toList.dropWhile isBlank)
  let size : Int := ofDigitChars (spanDigits body).1
  clampInt64 (if negative then -size else size)

/-- How many significant digits the text of a double has at most. -/
def doubleDigits : Nat := 15

/-- A decimal with one digit before the point, at least one behind it, and an exponent of at least
two digits. -/
def scientificText (d : Decimal) : List Char :=
  let ds := Number.digitChars d.digits
  let power := (ds.length : Int) + d.exponent - 1
  let fraction := ds.drop 1
  let exponent := Number.digitChars power.natAbs
  ds.take 1 ++ '.' :: (if fraction.isEmpty then ['0'] else fraction) ++
    'e' :: (if power < 0 then '-' else '+') ::
      (List.replicate (2 - exponent.length) '0' ++ exponent)

/-- The text of a double: fifteen significant digits, trailing zeros dropped but for one behind the
point, positional from `10 ^ -4` up to but not including `10 ^ 15`. -/
def doubleText (x : Float) : String :=
  if x.isFinite then
    if x == 0.0 then "0.0"
    else
      let d := Number.pairedDigits doubleDigits x.abs
      let point := (Number.digitCount d.digits : Int) + d.exponent
      let body :=
        if -4 < point ∧ point ≤ doubleDigits then d.positional else scientificText d
      String.ofList (if (Number.Binary.ofFloat x).negative then '-' :: body else body)
  else if x < 0.0 then "-Inf"
  else "Inf"

/-- The text of a cell; null has none. -/
def textOf? : Cell → Option String
  | .null => none
  | .integer n => some (toString n.toInt)
  | .real x => some (doubleText x)
  | .text s => some s
  | .blob bytes => some (Text.ofBytes bytes)

/-- A double without its fraction, cut to 64 bits. -/
def truncated (x : Float) : Int64 :=
  if x.isFinite then clampInt64 (Number.truncate x)
  else clampInt64 (if x < 0.0 then Number.minInt64 else Number.maxInt64)

/-- The integer equal to a double, strictly inside the range of 64 bits. -/
def exactInteger? (x : Float) : Option Int64 :=
  if x.isFinite then
    let n := Number.truncate x
    if Number.minInt64 < n ∧ n < Number.maxInt64 ∧ Float.ofInt n == x then some (Int64.ofInt n)
    else none
  else none

/-- A number as a column of numbers stores it: as an integer if it is one. -/
def compacted : Cell → Cell
  | .real x =>
    match exactInteger? x with
    | some n => .integer n
    | none => .real x
  | c => c

/-- A cell that spells a number as that number. -/
def numbered : Cell → Cell
  | .text s => (numberOfText? s).getD (.text s)
  | c => c

/-- A number as its text. -/
def spelled : Cell → Cell
  | .integer n => .text (toString n.toInt)
  | .real x => .text (doubleText x)
  | c => c

/-- An integer as a double. -/
def widened : Cell → Cell
  | .integer n => .real (Float.ofInt n.toInt)
  | c => c

/-- What a column of an affinity stores for a cell.  A column of doubles keeps those without a
fraction as integers in between, so a zero loses its sign. -/
def stored : Affinity → Cell → Cell
  | .integer, c | .numeric, c => compacted (numbered c)
  | .real, c => widened (compacted (numbered c))
  | .text, c => spelled c
  | .blob, c => c

/-- A cell without the doubles that are no numbers; they are bound as null. -/
def bound : Cell → Cell
  | .real x => if x.isNaN then .null else .real x
  | c => c

/-- The number a text counts as in arithmetic: the one it starts with, or zero. -/
def leadingOperand (s : String) : Cell := ((leadingNumber? s.toList).map (·.1)).getD (.integer 0)

/-- The number a cell counts as in arithmetic; null stays null. -/
def operand : Cell → Cell
  | .text s => leadingOperand s
  | .blob bytes => leadingOperand (Text.ofBytes bytes)
  | c => c

/-- A number as a double. -/
def doubleOf : Cell → Float
  | .integer n => Float.ofInt n.toInt
  | .real x => x
  | _ => 0.0

/-- A double as a result; what is no number is null. -/
def realResult (x : Float) : Cell := if x.isNaN then .null else .real x

/-- Whether a cell holds as a condition; null is neither. -/
def truth : Cell → Option Bool
  | .null => none
  | .integer n => some (n != 0)
  | .real x => some (x != 0.0)
  | .text s => some (leadingDouble s != 0.0)
  | .blob bytes => some (leadingDouble (Text.ofBytes bytes) != 0.0)

/-- What a truth value is as a cell. -/
def ofTruth : Option Bool → Cell
  | none => .null
  | some b => Value.flag b

/-- From this integer on, a double that is read from a text on demand stays a double. -/
def greatInteger : Int := 0x8000000000000

/-- A number read from a text on demand: as an integer if it is a small one. -/
def narrowed : Cell → Cell
  | .real x =>
    match exactInteger? x with
    | some n =>
      if -greatInteger ≤ n.toInt ∧ n.toInt < greatInteger then .integer n else .real x
    | none => .real x
  | c => c

/-- A cell converted to an affinity on demand. -/
def cast : Affinity → Cell → Cell
  | _, .null => .null
  | .integer, .real x => .integer (truncated x)
  | .integer, .text s => .integer (leadingInteger s)
  | .integer, .blob bytes => .integer (leadingInteger (Text.ofBytes bytes))
  | .real, .integer n => .real (Float.ofInt n.toInt)
  | .real, .text s => .real (leadingDouble s)
  | .real, .blob bytes => .real (leadingDouble (Text.ofBytes bytes))
  | .numeric, .text s => narrowed (operand (.text s))
  | .numeric, .blob bytes => narrowed (operand (.text (Text.ofBytes bytes)))
  | .text, c => .text ((textOf? c).getD "")
  | .blob, .text s => .blob s.toUTF8.toList
  | .blob, .integer n => .blob (toString n.toInt).toUTF8.toList
  | .blob, .real x => .blob (doubleText x).toUTF8.toList
  | _, c => c

end FilterStore.Engine
