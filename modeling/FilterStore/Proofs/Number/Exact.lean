import FilterStore.Engine.Comparison
import FilterStore.Proofs.Number.Finite

/-!
# Integers that doubles hold exactly

A double has a mantissa of 53 bits, so an integer of no more bits is a double as it is.  It becomes
one in three steps, and each of them is exact: its bits are moved up until the first of 53 is set,
the number is multiplied by one, and the sign is set.

There are two zeros among the doubles.  A double is one of them exactly if it is compared with zero
as equal, with the integer as well as with a double (`compareMixed_zero`, `compareDoubles_zero`).
-/

namespace FilterStore.Number

open Float.Model Float.Model.UnpackedFloat

/-- Bits that are moved down are not lost if they are zeros. -/
theorem shiftRight_mul (n k : Nat) :
    (⟨n * 2 ^ k, false, false⟩ : ExtendedMantissa) >>> k = ⟨n, false, false⟩ := by
  induction k generalizing n with
  | zero => simp [HShiftRight.hShiftRight, Nat.repeat]
  | succ k ih =>
    have last := ih (n * 2)
    rw [Nat.mul_assoc, ← Nat.pow_succ'] at last
    change ((⟨n * 2 ^ (k + 1), false, false⟩ : ExtendedMantissa) >>> k).shiftRightOne = _
    rw [last]
    simp [ExtendedMantissa.shiftRightOne]

/-- The bit of a sign. -/
def signBit : Sign → Nat
  | .negative => 2 ^ 63
  | .positive => 0

theorem toNat_packComponents (sign : Sign) (field : BitVec 11) (low : BitVec 52) :
    (packComponents Format.binary64 sign field low).toNat =
      signBit sign + field.toNat * 2 ^ 52 + low.toNat := by
  have joined : (packComponents Format.binary64 sign field low).toNat =
      (sign.toBitVec.toNat <<< 11 ||| field.toNat) <<< 52 ||| low.toNat := by
    simp only [packComponents, BitVec.toNat_append]
  rw [joined, ← Nat.shiftLeft_add_eq_or_of_lt low.isLt, ← Nat.shiftLeft_add_eq_or_of_lt field.isLt,
    Nat.shiftLeft_eq, Nat.shiftLeft_eq, Nat.add_mul, Nat.mul_assoc, ← Nat.pow_add]
  cases sign <;> rfl

/-- A mantissa whose first bit of 53 is set, with an exponent that leaves room for it. -/
structure Normal (m : Nat) (e : Int) : Prop where
  lower : 2 ^ 52 ≤ m
  upper : m < 2 ^ 53
  least : -1074 ≤ e
  room : e < 971

namespace Normal

variable {m : Nat} {e : Int} (h : Normal m e)

include h

theorem pos : 0 < m := Nat.lt_of_lt_of_le (by decide) h.lower

theorem log2_eq : m.log2 = 52 := by
  have positive := h.pos.ne'
  have below := (Nat.log2_lt positive).mpr h.upper
  have above := (Nat.le_log2 positive).mpr h.lower
  omega

theorem target {k : Nat} (first : (m * 2 ^ k).log2 = 52 + k) :
    Format.binary64.targetExponent (totalExponent (m * 2 ^ k) (e - k)) = e := by
  have least := h.least
  simp only [Format.targetExponent, totalExponent, first, Format.mantissaBits, Format.minExponent]
  omega

theorem log2_mul (k : Nat) : (m * 2 ^ k).log2 = 52 + k := by
  have positive : m * 2 ^ k ≠ 0 := Nat.mul_ne_zero h.pos.ne' (Nat.two_pow_pos k).ne'
  have below : (m * 2 ^ k).log2 < 53 + k := (Nat.log2_lt positive).mpr (by
    rw [Nat.pow_add]
    exact Nat.mul_lt_mul_of_pos_right h.upper (Nat.two_pow_pos k))
  have above : 52 + k ≤ (m * 2 ^ k).log2 := (Nat.le_log2 positive).mpr (by
    rw [Nat.pow_add]
    exact Nat.mul_le_mul_right _ h.lower)
  omega

/-- Bits that are moved up by some places are moved down again when the number is rounded. -/
theorem shift (k : Nat) : shiftToTargetExponent Format.binary64 (m * 2 ^ k) (e - k) .exact =
    (⟨m, false, false⟩, e) := by
  have places : (e - (e - (k : Int))).toNat = k := by omega
  simp only [shiftToTargetExponent, shiftToExponent, h.target (h.log2_mul k), places,
    ExtendedMantissa.ofMantissaAndAccuracy, shiftRight_mul]
  exact Prod.ext rfl (by simp)

theorem roundWithAccuracy_shifted (sign : Sign) (k : Nat) :
    roundWithAccuracy Format.binary64 sign (m * 2 ^ k) (e - k) .exact =
      .finite sign m e h.pos := by
  have again := h.shift 0
  simp only [Nat.pow_zero, Nat.mul_one, Int.natCast_zero, Int.sub_zero] at again
  have rounded : (⟨m, false, false⟩ : ExtendedMantissa).roundedMantissa = m := rfl
  simp only [roundWithAccuracy, h.shift k, rounded, again, dif_neg h.pos.ne']

/-- A packed number has the exponent in its field, and the mantissa without its first bit. -/
theorem pack_eq (sign : Sign) : UnpackedFloat.pack Format.binary64 (.finite sign m e h.pos) =
    packComponents Format.binary64 sign (BitVec.ofNat 11 (e + 1075).toNat) (BitVec.ofNat 52 m) := by
  have least := h.least
  have room := h.room
  have field : (e + Format.exponentBias Format.binary64 + (52 : Nat)).toNat = (e + 1075).toNat := by
    simp only [Format.exponentBias]
    congr 1
    omega
  have fits : ¬ 2 ^ 11 ≤ (e + 1075).toNat + 1 := by omega
  simp only [UnpackedFloat.pack, field, h.log2_eq, if_neg fits, Format.mantissaBits]
  rfl

/-- What is packed is unpacked. -/
theorem unpack_pack (sign : Sign) :
    (Float.Model.pack (.finite sign m e h.pos)).unpack = .finite sign m e h.pos := by
  have least := h.least
  have room := h.room
  have lower := h.lower
  have upper := h.upper
  have field : (BitVec.ofNat 11 (e + 1075).toNat).toNat = (e + 1075).toNat := by
    rw [BitVec.toNat_ofNat, Nat.mod_eq_of_lt (by omega)]
  have finite : BitVec.ofNat 11 (e + 1075).toNat ≠ -1#11 := by
    intro same
    have value := congrArg BitVec.toNat same
    rw [field] at value
    change _ = 2047 at value
    omega
  have normal : BitVec.ofNat 11 (e + 1075).toNat ≠ 0#11 := by
    intro same
    have value := congrArg BitVec.toNat same
    rw [field] at value
    change _ = 0 at value
    omega
  have mantissa : (1#1 ++ BitVec.ofNat 52 m).toNat = m := by
    have low : m % 2 ^ 52 < 2 ^ 52 := Nat.mod_lt _ (by decide)
    change 2 ^ 52 ||| m % 2 ^ 52 = m
    rw [Nat.or_comm, Nat.or_two_pow_eq_add_of_lt low]
    omega
  have signed : Sign.ofBitVec sign.toBitVec = sign := by
    cases sign <;> rfl
  change UnpackedFloat.unpack Format.binary64
    (UnpackedFloat.pack Format.binary64 (.finite sign m e h.pos)) = _
  rw [h.pack_eq]
  simp only [UnpackedFloat.unpack, unpackMantissa_packComponents, unpackExponent_packComponents,
    unpackSign_packComponents, if_neg finite, if_neg normal, mantissa, field, signed]
  simp only [Format.exponentBias]
  congr 1
  omega

/-- The bits of a packed number. -/
theorem toBits_pack (sign : Sign) : (Float.Model.pack (.finite sign m e h.pos)).toBits.toNat =
    signBit sign + (e + 1075).toNat * 2 ^ 52 + (m - 2 ^ 52) := by
  have least := h.least
  have room := h.room
  have lower := h.lower
  have upper := h.upper
  change (UnpackedFloat.pack Format.binary64 (.finite sign m e h.pos)).toNat = _
  rw [h.pack_eq, toNat_packComponents, BitVec.toNat_ofNat, BitVec.toNat_ofNat,
    Nat.mod_eq_of_lt (show (e + 1075).toNat < 2 ^ 11 by omega)]
  omega

/-- Multiplying by one changes nothing. -/
theorem mul_one (sign : Sign) :
    Float.Model.pack (.finite sign m e h.pos) * (1.0 : Float).toModel =
      Float.Model.pack (.finite sign m e h.pos) := by
  have one : (1.0 : Float).toModel.unpack = .finite .positive (2 ^ 52) (-52) (by decide) := by
    rfl
  have signed : sign * .positive = sign := by
    cases sign <;> rfl
  change Float.Model.pack (UnpackedFloat.mul Format.binary64 _ _) = _
  rw [h.unpack_pack, one]
  change Float.Model.pack (roundWithAccuracy Format.binary64 (sign * .positive) (m * 2 ^ 52)
    (e - (52 : Nat)) .exact) = _
  rw [signed, h.roundWithAccuracy_shifted]

end Normal

/-! ## Integers -/

/-- The places by which an integer is moved up until its first bit is the first of 53. -/
def placesUp (n : Nat) : Nat := 52 - n.log2

theorem normal_ofNat {n : Nat} (positive : 0 < n) (small : n < 2 ^ 53) :
    Normal (n * 2 ^ placesUp n) (-placesUp n) := by
  have first : n.log2 < 53 := (Nat.log2_lt positive.ne').mpr small
  have bits : n.log2 + placesUp n = 52 := by
    rw [placesUp]
    omega
  have below : 2 ^ n.log2 ≤ n := Nat.log2_self_le positive.ne'
  have above : n < 2 ^ (n.log2 + 1) := Nat.lt_log2_self
  refine ⟨?_, ?_, by omega, by omega⟩
  · rw [← bits, Nat.pow_add]
    exact Nat.mul_le_mul_right _ below
  · rw [show 53 = n.log2 + 1 + placesUp n by omega, Nat.pow_add]
    exact Nat.mul_lt_mul_of_pos_right above (Nat.two_pow_pos _)

theorem toModel_ofNat {n : Nat} (positive : 0 < n) (small : n < 2 ^ 53) :
    (Float.ofNat n).toModel = Float.Model.pack
      (.finite .positive (n * 2 ^ placesUp n) (-placesUp n) (normal_ofNat positive small).pos) := by
  have h := normal_ofNat positive small
  have word : n.toUInt64.toNat = n := by
    rw [Nat.toUInt64_eq, UInt64.toNat_ofNat', Nat.mod_eq_of_lt (by omega)]
  have first : n.log2 < 53 := (Nat.log2_lt positive.ne').mpr small
  have target : Format.binary64.targetExponent (totalExponent n 0) = -placesUp n := by
    simp only [Format.targetExponent, totalExponent, Format.mantissaBits, Format.minExponent,
      placesUp]
    omega
  have integer : UnpackedFloat.ofUInt64 Format.binary64 n.toUInt64 =
      .finite .positive (n * 2 ^ placesUp n) (-placesUp n) h.pos := by
    have greater : compare (n : Int) 0 = .gt := Int.compare_eq_gt.mpr (by omega)
    have rounded := h.roundWithAccuracy_shifted .positive 0
    simp only [Nat.pow_zero, Nat.mul_one, Int.natCast_zero, Int.sub_zero] at rounded
    simp only [UnpackedFloat.ofUInt64, UnpackedFloat.ofNat, UnpackedFloat.ofInt,
      UnpackedFloat.normalize, word, greater, UnpackedFloat.round, decreaseExponent, target,
      Int.zero_sub, Int.neg_neg, Int.toNat_natCast, Nat.shiftLeft_eq, rounded]
  have multiplied : (Float.ofNat n).toModel =
      Float.Model.pack (UnpackedFloat.ofUInt64 Format.binary64 n.toUInt64) *
        (1.0 : Float).toModel := by
    have exact : n < 2 ^ 53 ∧ 0 ≤ 22 := ⟨small, by decide⟩
    simp only [Float.ofNat, OfScientific.ofScientific, Float.ofScientific, dif_pos exact]
    rfl
  rw [multiplied, integer, h.mul_one]

theorem toModel_neg_ofNat {n : Nat} (positive : 0 < n) (small : n < 2 ^ 53) :
    (Float.ofInt (-n)).toModel = Float.Model.pack
      (.finite .negative (n * 2 ^ placesUp n) (-placesUp n) (normal_ofNat positive small).pos) := by
  have h := normal_ofNat positive small
  obtain ⟨k, rfl⟩ : ∃ k, n = k + 1 := ⟨n - 1, by omega⟩
  change Float.Model.pack (Float.ofNat (k + 1)).toModel.unpack.neg = _
  rw [toModel_ofNat positive small, h.unpack_pack]
  rfl

/-- The parts of a packed number are found in its bits. -/
theorem Normal.ofFloat_pack {m : Nat} {e : Int} (h : Normal m e) (sign : Sign) :
    Binary.ofFloat (.ofModel (.pack (.finite sign m e h.pos))) =
      ⟨decide (signBit sign ≠ 0), m, e⟩ := by
  have least := h.least
  have room := h.room
  have lower := h.lower
  have upper := h.upper
  have bits : (Float.ofModel (.pack (.finite sign m e h.pos))).toBits.toNat =
      signBit sign + (e + 1075).toNat * 2 ^ 52 + (m - 2 ^ 52) := h.toBits_pack sign
  have signed : signBit sign = 0 ∨ signBit sign = 2 ^ 63 := by
    cases sign
    · exact .inr rfl
    · exact .inl rfl
  generalize signBit sign = s at bits signed
  have hidden : hiddenBit = 2 ^ 52 := rfl
  unfold Binary.ofFloat
  rw [hidden, bits]
  have field : (s + (e + 1075).toNat * 2 ^ 52 + (m - 2 ^ 52)) / 2 ^ 52 % 2048 =
      (e + 1075).toNat := by
    omega
  have low : (s + (e + 1075).toNat * 2 ^ 52 + (m - 2 ^ 52)) % 2 ^ 52 = m - 2 ^ 52 := by
    omega
  have top : (s + (e + 1075).toNat * 2 ^ 52 + (m - 2 ^ 52)) / (2048 * 2 ^ 52) = s / 2 ^ 63 := by
    omega
  have normal : (e + 1075).toNat ≠ 0 := by omega
  have sign : (s / 2 ^ 63 == 1) = decide (s ≠ 0) := by
    rcases signed with rfl | rfl <;> rfl
  have mantissa : 2 ^ 52 + (m - 2 ^ 52) = m := by omega
  have exponent : ((e + 1075).toNat : Int) - 1075 = e := by omega
  simp only [field, low, top, if_neg normal, sign, mantissa, exponent]

/-- A double stands for an integer. -/
structure Holds (x : Float) (n : Int) : Prop where
  finite : x.isFinite = true
  fraction : (Binary.ofFloat x).signed (Binary.ofFloat x).numerator =
    n * (Binary.ofFloat x).denominator

/-- A packed number whose bits were moved up stands for the number before. -/
theorem holds_pack {k : Nat} (positive : 0 < k) (small : k < 2 ^ 53) (sign : Sign) {x : Float}
    (packed : x.toModel = .pack (.finite sign (k * 2 ^ placesUp k) (-placesUp k)
      (normal_ofNat positive small).pos)) :
    Holds x (if signBit sign ≠ 0 then -k else k) := by
  have h := normal_ofNat positive small
  obtain rfl : x = .ofModel (.pack (.finite sign _ _ h.pos)) := by
    rw [← packed]
  constructor
  · change (Float.Model.pack _).unpack.isFinite = true
    rw [h.unpack_pack]
    rfl
  · have up : (-(-(placesUp k : Int))).toNat = placesUp k := by omega
    have down : (-(placesUp k : Int)).toNat = 0 := by omega
    have unit (p : Nat) : Nat.pow 2 p = 2 ^ p := rfl
    simp only [h.ofFloat_pack, Binary.signed, Binary.numerator, Binary.denominator, up, down, unit,
      Nat.pow_zero, Nat.mul_one, decide_eq_true_eq, Int.natCast_mul]
    split
    · exact (Int.neg_mul ..).symm
    · rfl

/-- **An integer of at most 53 bits is the double that it becomes.** -/
theorem holds_ofInt {n : Int} (small : n.natAbs < 2 ^ 53) : Holds (Float.ofInt n) n := by
  rcases Int.lt_trichotomy n 0 with below | rfl | above
  · obtain ⟨k, rfl⟩ : ∃ k : Nat, n = -k := ⟨n.natAbs, by omega⟩
    have positive : 0 < k := by omega
    rw [Int.natAbs_neg, Int.natAbs_natCast] at small
    have held := holds_pack positive small .negative (toModel_neg_ofNat positive small)
    rwa [if_pos (by decide)] at held
  · have none : (Binary.ofFloat (Float.ofInt 0)).mantissa = 0 := rfl
    refine ⟨rfl, ?_⟩
    simp only [Binary.signed, Binary.numerator, none, Nat.zero_mul, Int.zero_mul, Int.natCast_zero,
      Int.neg_zero, ite_self]
  · obtain ⟨k, rfl⟩ : ∃ k : Nat, n = k := ⟨n.natAbs, by omega⟩
    have positive : 0 < k := by omega
    rw [Int.natAbs_natCast] at small
    have held := holds_pack positive small .positive (toModel_ofNat positive small)
    rwa [if_neg (by decide)] at held

/-- A double that stands for an integer is compared as that integer. -/
theorem Holds.compareMixed {x : Float} {n : Int} (h : Holds x n) (m : Int) :
    Engine.compareMixed m x = compare m n := by
  have positive : 0 < ((Binary.ofFloat x).denominator : Int) :=
    Int.natCast_pos.mpr (Nat.two_pow_pos _)
  rw [Engine.compareMixed, if_pos h.finite, Engine.compareExactly, h.fraction]
  rcases Int.lt_trichotomy m n with less | rfl | greater
  · rw [Int.compare_eq_lt.mpr less,
      Int.compare_eq_lt.mpr (Int.mul_lt_mul_of_pos_right less positive)]
  · rw [Int.compare_eq_eq.mpr rfl, Int.compare_eq_eq.mpr rfl]
  · rw [Int.compare_eq_gt.mpr greater,
      Int.compare_eq_gt.mpr (Int.mul_lt_mul_of_pos_right greater positive)]

/-! ## Zeros -/

theorem lt_iff (x y : Float) :
    x < y ↔ x.toModel.unpack.compare y.toModel.unpack = some .lt := by
  have model : x < y ↔ x.lt y = true := Iff.rfl
  rw [model, Float.lt, decide_eq_true_iff]
  exact beq_iff_eq

theorem beq_zero_iff (x : Float) : (x == 0.0) = true ↔ ∃ sign, x.toModel.unpack = .zero sign := by
  have model : (x == 0.0) = (x.toModel.unpack.compare (.zero .positive) == some .eq) := rfl
  rw [model, beq_iff_eq]
  cases x.toModel.unpack with
  | zero sign => exact ⟨fun _ => ⟨sign, rfl⟩, fun _ => rfl⟩
  | notANumber => exact ⟨nofun, nofun⟩
  | infinity sign => cases sign <;> exact ⟨nofun, nofun⟩
  | finite sign => cases sign <;> exact ⟨nofun, nofun⟩

/-- Of the doubles that are numbers, the zeros are those that a zero is compared with as equal. -/
theorem compareDoubles_zero {x y : Float} (zero : (x == 0.0) = true) (number : y.isNaN = false) :
    Engine.compareDoubles x y = .eq ↔ (y == 0.0) = true := by
  obtain ⟨sign, unpacked⟩ := (beq_zero_iff x).mp zero
  have number : y.toModel.unpack.isNaN = false := number
  rw [beq_zero_iff]
  simp only [Engine.compareDoubles, lt_iff, unpacked]
  cases h : y.toModel.unpack with
  | zero other => exact ⟨fun _ => ⟨other, rfl⟩, fun _ => rfl⟩
  | notANumber =>
    rw [h] at number
    cases number
  | infinity other => cases other <;> exact ⟨nofun, nofun⟩
  | finite other => cases other <;> exact ⟨nofun, nofun⟩

/-- The bits of a zero are zero, the sign aside. -/
theorem mantissa_eq_zero_iff {x : Float} (finite : x.isFinite = true) :
    (Binary.ofFloat x).mantissa = 0 ↔ (x == 0.0) = true := by
  have hidden : hiddenBit = 2 ^ 52 := rfl
  obtain ⟨bits, hbits⟩ : ∃ bits : BitVec 64, x.toModel.toBits.toBitVec = bits := ⟨_, rfl⟩
  have word : x.toBits.toNat = bits.toNat := congrArg BitVec.toNat hbits
  have exponent : (@unpackExponent Format.binary64 bits).toNat = bits.toNat / 2 ^ 52 % 2048 := by
    simp [unpackExponent, Nat.shiftRight_eq_div_pow]
  have low : (@unpackMantissa Format.binary64 bits).toNat = bits.toNat % 2 ^ 52 := by
    simp [unpackMantissa]
  have mantissa : (Binary.ofFloat x).mantissa = 0 ↔
      bits.toNat / 2 ^ 52 % 2048 = 0 ∧ bits.toNat % 2 ^ 52 = 0 := by
    rw [← word]
    unfold Binary.ofFloat
    dsimp only
    rw [hidden]
    split <;> omega
  have unpacked : x.toModel.unpack = UnpackedFloat.unpack Format.binary64 bits :=
    congrArg (UnpackedFloat.unpack Format.binary64) hbits
  have finite : x.toModel.unpack.isFinite = true := finite
  rw [mantissa, beq_zero_iff, unpacked, ← exponent, ← low]
  rw [unpacked] at finite
  have zeroExponent : @unpackExponent Format.binary64 bits = 0#11 ↔
      (@unpackExponent Format.binary64 bits).toNat = 0 := BitVec.toNat_inj.symm
  have zeroMantissa : @unpackMantissa Format.binary64 bits = 0#52 ↔
      (@unpackMantissa Format.binary64 bits).toNat = 0 := BitVec.toNat_inj.symm
  rw [← zeroExponent, ← zeroMantissa]
  simp only [UnpackedFloat.unpack] at finite ⊢
  by_cases full : @unpackExponent Format.binary64 bits = -1#11
  · rw [if_pos full] at finite
    split at finite <;> cases finite
  · rw [if_neg full]
    by_cases first : @unpackExponent Format.binary64 bits = 0#11
    · rw [if_pos first]
      by_cases rest : @unpackMantissa Format.binary64 bits = 0#52
      · rw [dif_pos rest]
        exact ⟨fun _ => ⟨_, rfl⟩, fun _ => ⟨first, rest⟩⟩
      · rw [dif_neg rest]
        exact ⟨fun h => absurd h.2 rest, nofun⟩
    · rw [if_neg first]
      exact ⟨fun h => absurd h.1 first, nofun⟩

theorem isFinite_of_zero {x : Float} (zero : (x == 0.0) = true) : x.isFinite = true := by
  obtain ⟨sign, unpacked⟩ := (beq_zero_iff x).mp zero
  have finite : x.isFinite = x.toModel.unpack.isFinite := rfl
  rw [finite, unpacked]
  rfl

/-- A zero is compared with integers as zero is. -/
theorem holds_zero {x : Float} (zero : (x == 0.0) = true) : Holds x 0 := by
  have finite := isFinite_of_zero zero
  have mantissa := (mantissa_eq_zero_iff finite).mpr zero
  refine ⟨finite, ?_⟩
  simp only [Binary.signed, Binary.numerator, mantissa, Nat.zero_mul, Int.zero_mul, Int.natCast_zero,
    Int.neg_zero, ite_self]

/-- Zero is compared as equal with the zeros among the doubles. -/
theorem compareMixed_zero (x : Float) :
    Engine.compareMixed 0 x = .eq ↔ (x == 0.0) = true := by
  constructor
  · intro equal
    unfold Engine.compareMixed at equal
    split at equal
    · rename_i finite
      rw [← mantissa_eq_zero_iff finite]
      rw [Engine.compareExactly, Int.zero_mul, Int.compare_eq_eq] at equal
      have positive : 0 < Nat.pow 2 (Binary.ofFloat x).exponent.toNat := Nat.two_pow_pos _
      have none : (Binary.ofFloat x).numerator = 0 := by
        unfold Binary.signed at equal
        split at equal <;> omega
      exact (Nat.mul_eq_zero.mp none).resolve_right positive.ne'
    · split at equal <;> cases equal
  · intro zero
    rw [(holds_zero zero).compareMixed]
    rfl
end FilterStore.Number
