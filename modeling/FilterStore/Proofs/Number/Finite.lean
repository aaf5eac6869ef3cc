import FilterStore.Json.Basic
import Mathlib

/-!
# Integers of JSON as doubles

A number of JSON that does not fit 64 bits with a sign is read as the nearest double.  No such
double is an infinity: the largest integer of JSON is below `2 ^ 64`, and the largest double is
above `2 ^ 1023`.  So whatever is read can be written again.

A double is rounded in two shifts: the first drops the bits that have no room, the second makes
room again if the rounding carried.  Between `2 ^ 64` and `2 ^ 1023` there is so much room that the
bounds below count bits only and do not follow the rounding.
-/

namespace FilterStore.Number

open Float.Model Float.Model.UnpackedFloat

theorem mantissa_shiftRight (m : ExtendedMantissa) (k : Nat) :
    (m >>> k).mantissa = m.mantissa / 2 ^ k := by
  induction k with
  | zero => simp [HShiftRight.hShiftRight, Nat.repeat]
  | succ k ih =>
    change (m >>> k).mantissa / 2 = _
    rw [ih, Nat.div_div_eq_div_mul, Nat.pow_succ]

theorem roundedMantissa_le (m : ExtendedMantissa) : m.roundedMantissa ≤ m.mantissa + 1 := by
  obtain ⟨mantissa, round, sticky⟩ := m
  cases round <;> cases sticky <;>
    simp [ExtendedMantissa.roundedMantissa, ExtendedMantissa.accuracy, Accuracy.roundToNearestEven]
  omega

/-- A shift drops bits: the mantissa does not grow. -/
theorem shift_mantissa_le (mantissa : Nat) (exponent : Int) (accuracy : Accuracy) :
    (shiftToTargetExponent Format.binary64 mantissa exponent accuracy).1.mantissa ≤ mantissa := by
  have hinit : (ExtendedMantissa.ofMantissaAndAccuracy mantissa accuracy).mantissa = mantissa := by
    cases accuracy with
    | exact => rfl
    | inexact o => cases o <;> rfl
  simp only [shiftToTargetExponent, shiftToExponent, mantissa_shiftRight, hinit]
  exact Nat.div_le_self _ _

/-- A shift raises the exponent by the bits that have no room, 53 of them having room, and at
least to the smallest exponent. -/
theorem shift_exponent_le {mantissa bits : Nat} (h : mantissa < 2 ^ bits) (exponent : Int)
    (accuracy : Accuracy) :
    (shiftToTargetExponent Format.binary64 mantissa exponent accuracy).2 ≤
      max (exponent + bits) (-1074) := by
  have hlog : mantissa.log2 ≤ bits := by
    by_cases hm : mantissa = 0
    · simp [hm]
    · exact Nat.le_of_lt ((Nat.log2_lt hm).mpr h)
  simp only [shiftToTargetExponent, shiftToExponent, Format.targetExponent, totalExponent,
    Format.mantissaBits, Format.minExponent]
  omega

/-- The exponent of a packed number is not the one of infinities. -/
theorem unpackExponent_ne {sign : Sign} {exponent : BitVec 11} {mantissa : BitVec 52}
    (h : exponent.toNat + 1 < 2 ^ 11) :
    unpackExponent (packComponents Format.binary64 sign exponent mantissa) ≠ -1#11 := by
  rw [unpackExponent_packComponents]
  rintro rfl
  exact absurd h (by decide)

/-- What is unpacked with such an exponent is zero or finite. -/
theorem isFinite_unpack {b : BitVec 64} (h : @unpackExponent Format.binary64 b ≠ -1#11) :
    (UnpackedFloat.unpack Format.binary64 b).isFinite = true := by
  simp only [UnpackedFloat.unpack, if_neg h]
  split
  · split <;> rfl
  · rfl

theorem isFinite_pack_zero (sign : Sign) : (Float.Model.pack (.zero sign)).isFinite = true :=
  isFinite_unpack (unpackExponent_ne (by decide))

/-- A packed number is finite if its exponent is small enough. -/
theorem isFinite_pack {sign : Sign} {m : Nat} {e : Int} (hm : 0 < m) (he : e < 972) :
    (Float.Model.pack (.finite sign m e hm)).isFinite = true := by
  have hroom : (e + Format.exponentBias Format.binary64 + (52 : Nat)).toNat + 1 < 2 ^ 11 := by
    simp only [Format.exponentBias]
    omega
  refine isFinite_unpack ?_
  simp only [Float.Model.pack, UnpackedFloat.pack]
  split
  case isTrue h => exact absurd h (Nat.not_le.mpr hroom)
  split
  · refine unpackExponent_ne ?_
    rw [BitVec.toNat_ofNat, Nat.mod_eq_of_lt (Nat.lt_of_succ_lt hroom)]
    exact hroom
  · exact unpackExponent_ne (by decide)

/-- A rounded number is finite if what was rounded leaves room. -/
theorem isFinite_pack_round {mantissa bits : Nat} (h : mantissa < 2 ^ bits) (sign : Sign)
    {exponent : Int} (accuracy : Accuracy) (he : exponent + 2 * bits < 971) (hb : bits < 2000) :
    (Float.Model.pack
      (roundWithAccuracy Format.binary64 sign mantissa exponent accuracy)).isFinite = true := by
  have hfirst := shift_exponent_le h exponent accuracy
  have hmantissa := shift_mantissa_le mantissa exponent accuracy
  simp only [roundWithAccuracy]
  generalize shiftToTargetExponent Format.binary64 mantissa exponent accuracy = first at *
  have hround : first.1.roundedMantissa < 2 ^ (bits + 1) := by
    have hle := roundedMantissa_le first.1
    have hpow : 2 ^ bits + 2 ^ bits = 2 ^ (bits + 1) := by rw [Nat.pow_succ]; omega
    omega
  have hsecond := shift_exponent_le hround first.2 .exact
  split
  · exact isFinite_pack_zero sign
  · exact isFinite_pack _ (by omega)

/-- A number without an exponent of ten is rounded as it is. -/
theorem ofScientific_zero {n : Nat} (h : n ≠ 0) :
    UnpackedFloat.ofScientific Format.binary64 n 0 =
      roundWithAccuracy Format.binary64 .positive (n * 2 ^ 53) (-53) .exact := by
  have htiny : ¬ (0 : Int) < -(2 ^ 11 + (n.log2 : Int)) := by omega
  rw [UnpackedFloat.ofScientific, dif_neg h, if_neg (by decide), if_neg htiny,
    if_pos (Int.le_refl 0)]
  have one : (10 : Nat) ^ (0 : Int).toNat = 1 := rfl
  simp only [UnpackedFloat.mul, Format.mantissaBits, Nat.shiftLeft_eq, one, Nat.mul_one]
  rfl

/-- An integer that needs more than 53 bits, and no more than 64, is no infinity as a double. -/
theorem isFinite_ofNat {n : Nat} (hlow : 2 ^ 53 ≤ n) (hhigh : n < 2 ^ 64) :
    (Float.ofNat n).isFinite = true := by
  have hexact : ¬ (n < 2 ^ 53 ∧ 0 ≤ 22) := by omega
  have hzero : n ≠ 0 := by omega
  have hbits : n * 2 ^ 53 < 2 ^ 117 := by omega
  have hmodel : (Float.ofNat n).toModel =
      Float.Model.pack (UnpackedFloat.ofScientific Format.binary64 n 0) := by
    simp only [Float.ofNat, OfScientific.ofScientific, Float.ofScientific, dif_neg hexact]
    rfl
  rw [Float.isFinite, hmodel, ofScientific_zero hzero]
  exact isFinite_pack_round hbits _ .exact (by decide) (by decide)

end FilterStore.Number
