import FilterStore.Number.Decimal
import FilterStore.Text.Letter

/-!
# Numbers in texts

The readings of a whole text as a number, and the JSON spelling of a double.

A text is an integer if it is an optional sign and digits that fit 64 bits; it is a double if it is
an optional sign followed by a numeral or by one of the words for infinity and NaN.  Nothing may
stand around the number.
-/

namespace FilterStore.Number

/-- A text that is an optional sign and digits, as an integer of 64 bits. -/
def int64OfText? (cs : List Char) : Option Int64 :=
  let (negative, rest) := readSign cs
  if rest.isEmpty || !rest.all Char.isDigit then none
  else
    let n := ofDigitChars rest
    int64? (if negative then -(n : Int) else n)

/-- Not a number. -/
def nan : Float := Float.ofBits 0x7ff8000000000000

/-- The infinity above all doubles. -/
def infinity : Float := Float.ofBits 0x7ff0000000000000

/-- A text that is an optional sign and a numeral, which is rounded, or a word for infinity or
NaN. -/
def roundedOfText? (round : Numeral → Float) (cs : List Char) : Option Float :=
  let (negative, rest) := readSign cs
  let word := String.ofList (rest.map Char.toLower)
  if word == "inf" || word == "infinity" then some (withSign negative infinity)
  else if word == "nan" then some nan
  else
    match readNumeral rest with
    | some (n, []) => some (withSign negative (round n))
    | _ => none

/-- A text that spells a double. -/
def floatOfText? (cs : List Char) : Option Float := roundedOfText? Numeral.toFloat cs

/-- A text that spells a floating-point number of half the size, as a double. -/
def singleOfText? (cs : List Char) : Option Float := roundedOfText? Numeral.toSingle cs

/-- Zeros for padding. -/
def zeros (n : Nat) : List Char := List.replicate n '0'

/-- A decimal without exponent and with at least one digit on each side of the point. -/
def Decimal.positional (d : Decimal) : List Char :=
  let ds := digitChars d.digits
  let point := (ds.length : Int) + d.exponent
  if 0 ≤ d.exponent then ds ++ zeros d.exponent.toNat ++ ['.', '0']
  else if 0 < point then ds.take point.toNat ++ '.' :: ds.drop point.toNat
  else '0' :: '.' :: (zeros (-point).toNat ++ ds)

/-- A decimal with one digit before the point, the others behind it, and an exponent whose sign is
always written. -/
def Decimal.scientific (d : Decimal) : List Char :=
  let ds := digitChars d.digits
  let power := (ds.length : Int) + d.exponent - 1
  let rest := ds.drop 1
  ds.take 1 ++ (if rest.isEmpty then [] else '.' :: rest) ++
    'e' :: (if power < 0 then '-' else '+') :: digitChars power.natAbs

/-- The JSON spelling of a finite double: the shortest decimal that reads back, positional from
`10 ^ -5` up to but not including `10 ^ 16`, and zero with its sign. -/
def jsonText (x : Float) : String :=
  let d := shortest x
  let point := (digitCount d.digits : Int) + d.exponent
  let body :=
    if d.digits = 0 then ['0', '.', '0']
    else if -5 < point ∧ point ≤ 16 then d.positional
    else d.scientific
  String.ofList (if (Binary.ofFloat x).negative then '-' :: body else body)

end FilterStore.Number
