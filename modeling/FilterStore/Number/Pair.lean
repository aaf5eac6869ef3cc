import FilterStore.Number.Decimal

/-!
# Doubles in pairs

A number between two doubles is held as a *pair*: the double nearest to it and a second, much
smaller one, of which it is the sum.  A pair has twice the bits of a double, so it can be scaled by
powers of ten, a few factors at a time, and still be right to more digits than a double has.

This is how the engine converts between decimals and doubles.  The result is nearly always the one
that exact arithmetic gives.  Where it is not --- a decimal very close to the middle between two
doubles, a double very close to the middle between two decimals --- the engine answers what the
pairs give, and so the pairs are computed here step by step as the engine computes them.
-/

namespace FilterStore.Number

/-- The sum of two doubles, the second of them small beside the first. -/
structure Pair where
  high : Float
  low : Float

namespace Pair

/-- A double alone. -/
def ofFloat (x : Float) : Pair := { high := x, low := 0.0 }

/-- The upper half of the bits of a double.  The product of two such halves is exact. -/
def upperHalf (x : Float) : Float := Float.ofBits (x.toBits &&& 0xfffffffffc000000)

/-- The product of two pairs. -/
def times (p q : Pair) : Pair :=
  let u := upperHalf p.high
  let v := upperHalf q.high
  let u' := p.high - u
  let v' := q.high - v
  let outer := u * v
  let inner := u * v' + u' * v
  let c := outer + inner
  let rest := outer - c + inner + u' * v'
  let rest := p.high * q.low + p.low * q.high + rest
  let high := c + rest
  { high, low := (c - high) + rest }

/-- A product with the same factor some times. -/
def timesRepeated (q : Pair) (n : Nat) (p : Pair) : Pair := n.repeat (fun p => p.times q) p

/-- The hundredth power of ten. -/
def hundredUp : Pair := { high := 1.0e+100, low := -1.5902891109759918046e+83 }

/-- The tenth power of ten. -/
def tenUp : Pair := ofFloat 1.0e+10

/-- Ten. -/
def oneUp : Pair := ofFloat 10.0

/-- The inverse of the hundredth power of ten. -/
def hundredDown : Pair := { high := 1.0e-100, low := -1.99918998026028836196e-117 }

/-- The inverse of the tenth power of ten. -/
def tenDown : Pair := { high := 1.0e-10, low := -3.6432197315497741579e-27 }

/-- A tenth. -/
def oneDown : Pair := { high := 1.0e-01, low := -5.5511151231257827021e-18 }

/-- A pair times a power of ten. -/
def scaled (p : Pair) (power : Int) : Pair :=
  let n := power.natAbs
  if 0 ≤ power then
    timesRepeated oneUp (n % 10)
      (timesRepeated tenUp (n % 100 / 10) (timesRepeated hundredUp (n / 100) p))
  else
    timesRepeated oneDown (n % 10)
      (timesRepeated tenDown (n % 100 / 10) (timesRepeated hundredDown (n / 100) p))

/-! ## From decimals -/

/-- A number that is one too many for a word of 64 bits. -/
def wordSize : Nat := 0x10000000000000000

/-- A natural number of 64 bits, exactly: the double nearest to it and what is left. -/
def ofNat (n : Nat) : Pair :=
  let high := (UInt64.ofNat n).toFloat
  if high ≤ 18446744073709549568.0 then
    let near := high.toUInt64.toNat
    { high
      low :=
        if near ≤ n then (UInt64.ofNat (n - near)).toFloat
        else -(UInt64.ofNat (near - n)).toFloat }
  else ofFloat high

/-- The number from which on a significand takes no more digits. -/
def fullSignificand : Nat := (wordSize - 10) / 10

/-- What a numeral is read into: digits up to a significand that is full, and the power of ten that
goes with them. -/
def readDigit (point : Bool) (d : Decimal) (c : Char) : Decimal :=
  if d.digits < fullSignificand then
    { digits := 10 * d.digits + (c.toNat - '0'.toNat)
      exponent := if point then d.exponent - 1 else d.exponent }
  else { d with exponent := if point then d.exponent else d.exponent + 1 }

/-- Multiplies the digits by ten as long as they fit a word and the exponent is positive. -/
def widen : Nat → Decimal → Decimal
  | 0, d => d
  | fuel + 1, d =>
    if 0 < d.exponent ∧ d.digits < (wordSize - 0x800) / 10 then
      widen fuel { digits := 10 * d.digits, exponent := d.exponent - 1 }
    else d

/-- Drops zeros at the end of the digits as long as the exponent is negative. -/
def narrow : Nat → Decimal → Decimal
  | 0, d => d
  | fuel + 1, d =>
    if d.exponent < 0 ∧ d.digits % 10 = 0 then
      narrow fuel { digits := d.digits / 10, exponent := d.exponent + 1 }
    else d

/-- How often a significand can be multiplied by ten or divided by it, at most. -/
def significandSteps : Nat := 20

/-- The greatest power of ten that is told from greater ones. -/
def maxPower : Nat := 10000

end Pair

/-- The decimal of a numeral, cut to the digits that are taken into account. -/
def Numeral.cut (n : Numeral) : Decimal :=
  let d := n.fraction.foldl (Pair.readDigit true)
    (n.whole.foldl (Pair.readDigit false) { digits := 0, exponent := 0 })
  let power : Int := if n.power < 0 then -(min n.power.natAbs Pair.maxPower : Nat)
    else (min n.power.natAbs Pair.maxPower : Nat)
  { d with exponent := d.exponent + power }

/-- The double that a numeral comes to by way of pairs. -/
def Numeral.toPaired (n : Numeral) : Float :=
  let d := n.cut
  if d.digits = 0 then 0.0
  else
    let d := Pair.narrow Pair.significandSteps (Pair.widen Pair.significandSteps d)
    let p := (Pair.ofNat d.digits).scaled d.exponent
    let x := p.high + p.low
    if x.isNaN then Float.ofBits (UInt64.ofNat infinityBits) else x

namespace Pair

/-! ## To decimals -/

/-- A pair that is made smaller or greater, and the power of ten it is still to be multiplied by. -/
structure Scaling where
  pair : Pair
  power : Int

/-- Multiplies by a power of ten as long as a test holds. -/
def scaleWhile (test : Float → Bool) (factor : Pair) (power : Int) : Nat → Scaling → Scaling
  | 0, s => s
  | fuel + 1, s =>
    if test s.pair.high then
      scaleWhile test factor power fuel
        { pair := s.pair.times factor, power := s.power - power }
    else s

/-- How often a double has to be multiplied by one power of ten, at most. -/
def scalingSteps : Nat := 20

/-- A positive finite double as a pair with eighteen or nineteen digits before the point. -/
def scaledUp (x : Float) : Scaling :=
  let start : Scaling := { pair := ofFloat x, power := 0 }
  let step := fun test factor power s => scaleWhile test factor power scalingSteps s
  if 9.223372036854774784e+18 < x then
    step (9.223372036854774784e+18 < ·) oneDown (-1)
      (step (9.223372036854774784e+28 < ·) tenDown (-10)
        (step (9.223372036854774784e+118 < ·) hundredDown (-100) start))
  else
    step (· < 9.22337203685477478e+17) oneUp 1
      (step (· < 9.223372036854774784e+07) tenUp 10
        (step (· < 9.223372036854774784e-83) hundredUp 100 start))

/-- A pair without its fraction. -/
def whole (p : Pair) : Nat :=
  if p.low < 0.0 then p.high.toUInt64.toNat - (-p.low).toUInt64.toNat
  else p.high.toUInt64.toNat + p.low.toUInt64.toNat

end Pair

/-- The first digits of a positive finite double, by way of pairs; a half goes up. -/
def pairedDigits (count : Nat) (x : Float) : Decimal :=
  let s := Pair.scaledUp x
  let n := s.pair.whole
  let surplus := digitCount n - count
  if surplus = 0 then ({ digits := n, exponent := s.power } : Decimal).strip
  else
    let step := Nat.pow 10 surplus
    ({ digits := (n / (step / 10) + 5) / 10, exponent := s.power + surplus } : Decimal).strip

end FilterStore.Number
