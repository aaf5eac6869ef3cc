/-!
# Doubles as exact fractions

A finite double is an integer times a power of two, and the rules of this library about doubles ---
rounding to an integer, writing the fewest digits, reading a decimal --- are rules about that
fraction.  So a double is taken apart, and put together, once, here, and the rules are arithmetic on
natural numbers.
-/

namespace FilterStore.Number

/-- The double `± mantissa · 2 ^ exponent`. -/
structure Binary where
  negative : Bool
  mantissa : Nat
  exponent : Int
  deriving Repr, DecidableEq

/-- The least exponent of a double, that of the subnormal numbers. -/
def minExponent : Int := -1074

/-- The bit in front of the fraction of a double that is not subnormal. -/
def hiddenBit : Nat := Nat.pow 2 52

/-- Takes a finite double apart.  Infinities and NaN have no fraction; of them the answer is
meaningless, and callers ask `Float.isFinite` first. -/
def Binary.ofFloat (x : Float) : Binary :=
  let bits : Nat := x.toBits.toNat
  let field : Nat := bits / hiddenBit % 2048
  let fraction : Nat := bits % hiddenBit
  { negative := bits / (2048 * hiddenBit) == 1
    mantissa := if field = 0 then fraction else hiddenBit + fraction
    exponent := if field = 0 then minExponent else (field : Int) - 1075 }

/-- The size of the number as a fraction of naturals with a positive denominator. -/
def Binary.numerator (b : Binary) : Nat := b.mantissa * Nat.pow 2 b.exponent.toNat

/-- See `Binary.numerator`. -/
def Binary.denominator (b : Binary) : Nat := Nat.pow 2 (-b.exponent).toNat

/-- The sign of a double applied to a size. -/
def Binary.signed (b : Binary) (size : Nat) : Int := if b.negative then -(size : Int) else size

/-- Drops the fraction. -/
def truncate (x : Float) : Int :=
  let b := Binary.ofFloat x
  b.signed (b.numerator / b.denominator)

/-- The nearest integer; a half goes away from zero. -/
def roundHalfAway (x : Float) : Int :=
  let b := Binary.ofFloat x
  b.signed ((2 * b.numerator + b.denominator) / (2 * b.denominator))

/-! ## Rounding a fraction -/

/-- The integer nearest to a fraction; of two that are equally near the even one. -/
def nearestNat (num den : Nat) : Nat :=
  let below := num / den
  let rest := 2 * (num % den)
  if rest < den then below
  else if den < rest then below + 1
  else below + below % 2

/-- The greatest `e` with `2 ^ e ≤ num / den`, for a positive fraction. -/
def binaryOrder (num den : Nat) : Int :=
  let e : Int := (Nat.log2 num : Int) - Nat.log2 den
  if den * Nat.pow 2 e.toNat ≤ num * Nat.pow 2 (-e).toNat then e else e - 1

/-- A kind of binary numbers: how many bits a mantissa has, and the least exponent. -/
structure Precision where
  bits : Nat
  least : Int

/-- Doubles. -/
def Precision.double : Precision := { bits := 53, least := minExponent }

/-- Floating-point numbers of half the size. -/
def Precision.single : Precision := { bits := 24, least := -149 }

/-- The number of a precision nearest to a positive fraction, whatever its exponent is. -/
def Precision.nearest (p : Precision) (num den : Nat) : Binary :=
  let exponent := max p.least (binaryOrder num den - (p.bits - 1))
  { negative := false
    mantissa := nearestNat (num * Nat.pow 2 (-exponent).toNat) (den * Nat.pow 2 exponent.toNat)
    exponent }

/-- The bits of infinity. -/
def infinityBits : Nat := 0x7ff0000000000000

/-- The double of a mantissa of at most 54 bits and an exponent not below the least; infinity if
there is none.  The hidden bit of the mantissa carries into the exponent. -/
def Binary.toFloat (b : Binary) : Float :=
  let bits := (b.exponent - minExponent).toNat * hiddenBit + b.mantissa
  Float.ofBits (UInt64.ofNat (min bits infinityBits))

/-- The double nearest to a positive fraction. -/
def doubleOfFraction (num den : Nat) : Float := (Precision.double.nearest num den).toFloat

/-- The number of half the size nearest to a positive fraction, as a double. -/
def singleOfFraction (num den : Nat) : Float :=
  let b := Precision.single.nearest num den
  if b.mantissa = 0 then 0.0
  else if 128 ≤ binaryOrder b.numerator b.denominator then Float.ofBits (UInt64.ofNat infinityBits)
  else doubleOfFraction b.numerator b.denominator

/-! ## Integers of 64 bits -/

/-- The least integer of 64 bits. -/
def minInt64 : Int := -0x8000000000000000

/-- The greatest integer of 64 bits. -/
def maxInt64 : Int := 0x7fffffffffffffff

/-- An integer as a word of 64 bits, if it is one. -/
def int64? (n : Int) : Option Int64 :=
  if minInt64 ≤ n ∧ n ≤ maxInt64 then some (Int64.ofInt n) else none

/-- The nearest word of 64 bits. -/
def clampInt64 (n : Int) : Int64 :=
  if n < minInt64 then Int64.ofInt minInt64
  else if maxInt64 < n then Int64.ofInt maxInt64
  else Int64.ofInt n

end FilterStore.Number
