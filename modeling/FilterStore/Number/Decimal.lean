import FilterStore.Number.Binary

/-!
# Doubles as decimals

Two directions.  *Writing* picks a decimal for a double: the shortest one that reads back to the
same double.  *Reading* rounds a decimal to the nearest double.

## The shortest decimal

The reals that round to a double `m · 2 ^ q` form an interval around it, half a step wide on each
side --- a quarter step below a power of two --- and it holds its ends exactly when `m` is even.
For one digit, two digits, and so on, the decimals with that many digits form a grid, and if the
interval meets the grid at all it meets it in one of the two neighbours of the double.  So the first
count of digits with a neighbour in the interval gives the shortest decimal, and of two such
neighbours the nearer one is taken, the even one on a tie.
-/

namespace FilterStore.Number

/-- The decimal `digits · 10 ^ exponent`. -/
structure Decimal where
  digits : Nat
  exponent : Int
  deriving Repr, DecidableEq

/-- Moves trailing zeros from the digits to the exponent. -/
def Decimal.strip (d : Decimal) : Decimal :=
  if _ : d.digits ≠ 0 ∧ d.digits % 10 = 0 then
    Decimal.strip { digits := d.digits / 10, exponent := d.exponent + 1 }
  else d
termination_by d.digits
decreasing_by omega

/-- How many digits a natural number is written with. -/
def digitCount (n : Nat) : Nat := (Nat.toDigits 10 n).length

/-- The digits of a natural number. -/
def digitChars (n : Nat) : List Char := Nat.toDigits 10 n

/-- The value of a digit of base sixteen. -/
def hexValue? (c : Char) : Option Nat :=
  if c.isDigit then some (c.toNat - '0'.toNat)
  else if 'a' ≤ c ∧ c ≤ 'f' then some (c.toNat - 'a'.toNat + 10)
  else if 'A' ≤ c ∧ c ≤ 'F' then some (c.toNat - 'A'.toNat + 10)
  else none

/-- A natural number read from its digits; other characters count as zero. -/
def ofDigitChars (cs : List Char) : Nat :=
  cs.foldl (fun n c => 10 * n + (c.toNat - '0'.toNat)) 0

/-- Counts the places from `1` down to the first digit of a fraction `num / den` below one. -/
def leadingZeros (num den : Nat) : Nat → Nat
  | 0 => 0
  | fuel + 1 => if den ≤ num then 0 else leadingZeros (10 * num) den fuel + 1

/-- The exponent `e` with `10 ^ (e - 1) ≤ num / den < 10 ^ e`, for a positive fraction of a
double. -/
def magnitude (num den : Nat) : Int :=
  if den ≤ num then (digitCount (num / den) : Int)
  else 1 - (leadingZeros num den 400 : Int)

/-- A fraction scaled so that the grid `10 ^ k` has step `step`. -/
structure Grid where
  scale : Nat
  step : Nat

/-- The grid of the multiples of `10 ^ k` for fractions over `den`. -/
def Grid.ofPower (den : Nat) (k : Int) : Grid :=
  { scale := Nat.pow 10 (-k).toNat, step := den * Nat.pow 10 k.toNat }

/-- The neighbour on the grid `10 ^ k` that lies between the bounds, if any; all three numbers are
numerators over `den`. -/
def onGrid (low value high den : Nat) (closed : Bool) (k : Int) : Option Nat :=
  let g := Grid.ofPower den k
  let low := low * g.scale
  let high := high * g.scale
  let value := value * g.scale
  let below := value / g.step
  let above := below + 1
  let inside := fun c =>
    if closed then low ≤ c * g.step && c * g.step ≤ high
    else low < c * g.step && c * g.step < high
  if inside below then
    if inside above then
      let down := value - below * g.step
      let up := above * g.step - value
      if down < up || (down == up && below % 2 == 0) then some below else some above
    else some below
  else if inside above then some above
  else none

/-- The shortest decimal of the positive double `m · 2 ^ q`. -/
def shortestOf (b : Binary) : Decimal :=
  let quarter : Binary := { b with exponent := b.exponent - 2 }
  let unit := Nat.pow 2 quarter.exponent.toNat
  let den := quarter.denominator
  let value := 4 * b.mantissa * unit
  let high := (4 * b.mantissa + 2) * unit
  let low :=
    if b.mantissa = hiddenBit ∧ minExponent < b.exponent then (4 * b.mantissa - 1) * unit
    else (4 * b.mantissa - 2) * unit
  let top := magnitude value den
  let attempt := fun (n : Nat) =>
    (onGrid low value high den (b.mantissa % 2 == 0) (top - n)).map fun c =>
      ({ digits := c, exponent := top - n } : Decimal).strip
  ((List.range 17).findSome? fun n => attempt (n + 1)).getD { digits := 0, exponent := 0 }

/-- The shortest decimal that reads back to the size of a finite double; zero is `0 · 10 ^ 0`. -/
def shortest (x : Float) : Decimal :=
  let b := Binary.ofFloat x
  if b.mantissa = 0 then { digits := 0, exponent := 0 } else shortestOf b

/-- Rounds a decimal as a fraction is rounded.  Decimals far outside the range of doubles are
decided by their magnitude alone, so that no power of ten grows without bound. -/
def Decimal.roundedBy (round : Nat → Nat → Float) (d : Decimal) : Float :=
  let top := (digitCount d.digits : Int) + d.exponent
  if d.digits = 0 ∨ top < -400 then 0.0
  else if 400 < top then Float.ofBits (UInt64.ofNat infinityBits)
  else round (d.digits * Nat.pow 10 d.exponent.toNat) (Nat.pow 10 (-d.exponent).toNat)

/-- The double nearest to a decimal. -/
def Decimal.toFloat (d : Decimal) : Float := d.roundedBy doubleOfFraction

/-- The number of half the size nearest to a decimal, as a double. -/
def Decimal.toSingle (d : Decimal) : Float := d.roundedBy singleOfFraction

/-- The decimal text of an unsigned number: whole digits, fraction digits and the power of ten
written behind them. -/
structure Numeral where
  whole : List Char
  fraction : List Char
  power : Int
  deriving Repr, DecidableEq

/-- The decimal a numeral spells. -/
def Numeral.decimal (n : Numeral) : Decimal :=
  { digits := ofDigitChars (n.whole ++ n.fraction), exponent := n.power - n.fraction.length }

/-- The double nearest to a numeral. -/
def Numeral.toFloat (n : Numeral) : Float := n.decimal.toFloat

/-- The number of half the size nearest to a numeral, as a double. -/
def Numeral.toSingle (n : Numeral) : Float := n.decimal.toSingle

/-- Splits an optional sign from a text; `true` stands for minus. -/
def readSign : List Char → Bool × List Char
  | '-' :: rest => (true, rest)
  | '+' :: rest => (false, rest)
  | cs => (false, cs)

/-- Applies a sign. -/
def withSign (negative : Bool) (x : Float) : Float := if negative then -x else x

/-- Cuts the leading digits off a text. -/
def spanDigits (cs : List Char) : List Char × List Char :=
  (cs.takeWhile Char.isDigit, cs.dropWhile Char.isDigit)

/-- Reads an exponent `e`, sign and digits; without digits there is no exponent. -/
def readPower : List Char → Option (Int × List Char)
  | c :: rest =>
    if c == 'e' || c == 'E' then
      let (negative, rest) := readSign rest
      let (digits, rest) := spanDigits rest
      if digits.isEmpty then none
      else
        let n := ofDigitChars digits
        some (if negative then -(n : Int) else n, rest)
    else none
  | [] => none

/-- Reads an unsigned numeral: digits, a point with digits, an exponent.  At least one digit is
needed on one side of the point. -/
def readNumeral (cs : List Char) : Option (Numeral × List Char) :=
  let (whole, rest) := spanDigits cs
  let (fraction, rest) :=
    match rest with
    | '.' :: more => spanDigits more
    | _ => ([], rest)
  if whole.isEmpty && fraction.isEmpty then none
  else
    match readPower rest with
    | some (power, rest) => some ({ whole, fraction, power }, rest)
    | none => some ({ whole, fraction, power := 0 }, rest)

end FilterStore.Number
