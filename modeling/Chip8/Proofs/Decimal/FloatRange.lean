import Mathlib.Algebra.Order.Ring.Nat
import Chip8.Value

namespace Chip8
namespace FloatRange
open Float.Model Float.Model.UnpackedFloat

/-- A finite number with a bounded number of binary digits and a bounded exponent. -/
inductive Bounded (digits : Nat) (top : Int) : UnpackedFloat → Prop where
  | zero (sign : Sign) : Bounded digits top (.zero sign)
  | finite (sign : Sign) {mantissa : Nat} {exponent : Int} (positive : 0 < mantissa)
      (digitBound : mantissa.log2 ≤ digits) (bound : exponent ≤ top) :
      Bounded digits top (.finite sign mantissa exponent positive)

theorem Bounded.not_isInf {digits : Nat} {top : Int} {number : UnpackedFloat}
    (bounded : Bounded digits top number) : number.isInf = false := by
  cases bounded <;> rfl

theorem Bounded.not_isNaN {digits : Nat} {top : Int} {number : UnpackedFloat}
    (bounded : Bounded digits top number) : number.isNaN = false := by
  cases bounded <;> rfl

theorem Bounded.neg {digits : Nat} {top : Int} {number : UnpackedFloat}
    (bounded : Bounded digits top number) : Bounded digits top number.neg := by
  cases bounded with
  | zero sign => exact .zero _
  | finite sign positive digitBound bound => exact .finite _ positive digitBound bound

theorem Bounded.mono {digits : Nat} {top higher : Int} {number : UnpackedFloat}
    (bounded : Bounded digits top number) (below : top ≤ higher) :
    Bounded digits higher number := by
  cases bounded with
  | zero sign => exact .zero sign
  | finite sign positive digitBound bound =>
      exact .finite sign positive digitBound (Int.le_trans bound below)

/-! ## Binary digits -/

theorem log2_mono {small large : Nat} (below : small ≤ large) : small.log2 ≤ large.log2 := by
  by_cases zero : small = 0
  · simp [zero]
  · have positive : large ≠ 0 := by omega
    exact (Nat.le_log2 positive).mpr (Nat.le_trans (Nat.log2_self_le zero) below)

theorem log2_le {number digits : Nat} (below : number < 2 ^ (digits + 1)) :
    number.log2 ≤ digits := by
  by_cases zero : number = 0
  · simp [zero]
  · exact Nat.lt_succ_iff.mp ((Nat.log2_lt zero).mpr below)

theorem lt_two_pow {number digits : Nat} (bound : number.log2 ≤ digits) :
    number < 2 ^ (digits + 1) :=
  Nat.lt_of_lt_of_le Nat.lt_log2_self (Nat.pow_le_pow_right (by decide) (by omega))

theorem log2_succ_le (number : Nat) : (number + 1).log2 ≤ number.log2 + 1 := by
  have below := lt_two_pow (Nat.le_refl number.log2)
  refine log2_le ?_
  rw [Nat.pow_succ]
  omega

theorem log2_mul_le {left right leftDigits rightDigits : Nat} (leftBound : left.log2 ≤ leftDigits)
    (rightBound : right.log2 ≤ rightDigits) :
    (left * right).log2 ≤ leftDigits + rightDigits + 1 := by
  refine log2_le ?_
  calc left * right < 2 ^ (leftDigits + 1) * 2 ^ (rightDigits + 1) :=
        Nat.mul_lt_mul'' (lt_two_pow leftBound) (lt_two_pow rightBound)
    _ = 2 ^ (leftDigits + rightDigits + 1 + 1) := by rw [← Nat.pow_add]; congr 1; omega

theorem log2_shiftLeft_le {number digits : Nat} (bound : number.log2 ≤ digits) (count : Nat) :
    (number <<< count).log2 ≤ digits + count := by
  refine log2_le ?_
  rw [Nat.shiftLeft_eq, Nat.add_right_comm, Nat.pow_add]
  exact Nat.mul_lt_mul_of_pos_right (lt_two_pow bound) (Nat.two_pow_pos count)

/-! ## Rounding -/

theorem shifted_mantissa_le (extended : ExtendedMantissa) (count : Nat) :
    (extended >>> count).mantissa ≤ extended.mantissa := by
  induction count with
  | zero => exact Nat.le_refl _
  | succ count ih => exact Nat.le_trans (Nat.div_le_self _ 2) ih

theorem roundedMantissa_le (extended : ExtendedMantissa) :
    extended.roundedMantissa ≤ extended.mantissa + 1 := by
  obtain ⟨mantissa, roundBit, stickyBit⟩ := extended
  cases roundBit <;> cases stickyBit <;>
    simp [ExtendedMantissa.roundedMantissa, ExtendedMantissa.accuracy,
      Accuracy.roundToNearestEven]
  omega

theorem shift_mantissa_le (mantissa : Nat) (exponent : Int) :
    (shiftToTargetExponent Format.binary64 mantissa exponent .exact).1.mantissa ≤ mantissa :=
  shifted_mantissa_le ⟨mantissa, false, false⟩ _

theorem shift_exponent_le {mantissa digits : Nat} {exponent top : Int} (lowest : -1074 ≤ top)
    (digitBound : mantissa.log2 ≤ digits) (bound : exponent ≤ top) :
    (shiftToTargetExponent Format.binary64 mantissa exponent .exact).2 ≤ top + digits := by
  change exponent + ((max (mantissa.log2 + 1 + exponent - 53) (-1074) - exponent).toNat : Int) ≤ _
  omega

theorem bounded_round {mantissa digits : Nat} {exponent top : Int} (sign : Sign)
    (lowest : -1074 ≤ top) (digitBound : mantissa.log2 ≤ digits) (bound : exponent ≤ top) :
    Bounded (digits + 1) (top + digits + (digits + 1))
      (roundWithAccuracy Format.binary64 sign mantissa exponent .exact) := by
  have firstMantissa := shift_mantissa_le mantissa exponent
  have firstExponent := shift_exponent_le lowest digitBound bound
  unfold roundWithAccuracy
  generalize shiftToTargetExponent Format.binary64 mantissa exponent .exact = first at *
  obtain ⟨extended, shifted⟩ := first
  have rounded : extended.roundedMantissa ≤ mantissa + 1 :=
    Nat.le_trans (roundedMantissa_le extended) (Nat.succ_le_succ firstMantissa)
  have roundedDigits : extended.roundedMantissa.log2 ≤ digits + 1 :=
    Nat.le_trans (log2_mono rounded)
      (Nat.le_trans (log2_succ_le mantissa) (Nat.succ_le_succ digitBound))
  have lastMantissa := shift_mantissa_le extended.roundedMantissa shifted
  have lastExponent := shift_exponent_le (by omega) roundedDigits firstExponent
  dsimp only at lastExponent ⊢
  by_cases zero : (shiftToTargetExponent Format.binary64 extended.roundedMantissa shifted
      .exact).1.mantissa = 0
  · rw [dif_pos zero]
    exact .zero sign
  · rw [dif_neg zero]
    exact .finite sign _ (Nat.le_trans (log2_mono lastMantissa) roundedDigits) (by omega)

/-! ## Packing -/

theorem bounded_unpack {bits : BitVec Format.binary64.numBits} {top : Int} (lowest : -1074 ≤ top)
    (fits : top ≤ 970) (exponent : ((unpackExponent bits).toNat : Int) ≤ top + 1075) :
    Bounded 52 top (UnpackedFloat.unpack Format.binary64 bits) := by
  have notLargest : unpackExponent bits ≠ -1#_ := by
    intro largest
    have value : (unpackExponent bits).toNat = 2047 := by rw [largest]; rfl
    omega
  unfold UnpackedFloat.unpack
  dsimp only
  rw [if_neg notLargest]
  by_cases smallest : unpackExponent bits = 0#_
  · rw [if_pos smallest]
    by_cases zero : unpackMantissa bits = 0#_
    · rw [dif_pos zero]
      exact .zero _
    · rw [dif_neg zero]
      refine .finite _ _ (log2_le (Nat.lt_of_lt_of_le (BitVec.isLt _) (by decide))) ?_
      have value : (unpackExponent bits).toNat = 0 := by rw [smallest]; rfl
      change ((unpackExponent bits).toNat : Int) - 1075 + 1 ≤ top
      omega
  · rw [if_neg smallest]
    refine .finite _ _ (log2_le (Nat.lt_of_lt_of_le (BitVec.isLt _) (by decide))) ?_
    change ((unpackExponent bits).toNat : Int) - 1075 ≤ top
    omega

theorem bounded_unpack_pack {digits : Nat} {top : Int} {number : UnpackedFloat}
    (bounded : Bounded digits top number) (lowest : -1074 ≤ top) (fits : top ≤ 970) :
    Bounded 52 top (Float.Model.pack number).unpack := by
  refine bounded_unpack lowest fits ?_
  change ((unpackExponent (UnpackedFloat.pack Format.binary64 number)).toNat : Int) ≤ _
  cases bounded with
  | zero sign =>
      change ((unpackExponent (packComponents Format.binary64 sign 0 0)).toNat : Int) ≤ _
      rw [unpackExponent_packComponents]
      change (0 : Int) ≤ _
      omega
  | @finite sign mantissa exponent positive digitBound bound =>
      have notLargest : ¬ 2 ^ 11 ≤ (exponent + 1023 + 52).toNat + 1 := by omega
      change
        ((unpackExponent (if 2 ^ 11 ≤ (exponent + 1023 + 52).toNat + 1 then _ else _)).toNat : Int)
        ≤ _
      rw [if_neg notLargest]
      split
      · rw [unpackExponent_packComponents, BitVec.toNat_ofNat]
        have reduced := Nat.mod_le (exponent + 1023 + 52).toNat (2 ^ 11)
        change (((exponent + 1023 + 52).toNat % 2 ^ 11 : Nat) : Int) ≤ _
        omega
      · rw [unpackExponent_packComponents]
        change (0 : Int) ≤ _
        omega

/-! ## Products and whole numbers -/

theorem bounded_mul {left right : UnpackedFloat} {digits rightDigits : Nat} {top rightTop : Int}
    (leftBounded : Bounded digits top left) (rightBounded : Bounded rightDigits rightTop right)
    (lowest : -1074 ≤ top + rightTop) :
    Bounded (digits + rightDigits + 2)
      (top + rightTop + (digits + rightDigits + 1 : Nat) + (digits + rightDigits + 2 : Nat))
      (mul Format.binary64 left right) := by
  cases leftBounded with
  | zero => cases rightBounded <;> exact .zero _
  | finite sign positive digitBound bound =>
      cases rightBounded with
      | zero => exact .zero _
      | finite rightSign rightPositive rightDigitBound rightBound =>
          exact bounded_round _ lowest (log2_mul_le digitBound rightDigitBound)
            (Int.add_le_add bound rightBound)

theorem bounded_ofNat {number digits : Nat} (bound : number.log2 ≤ digits) :
    Bounded (digits + 53) (2 * digits + 105) (UnpackedFloat.ofNat Format.binary64 number) := by
  unfold UnpackedFloat.ofNat UnpackedFloat.ofInt UnpackedFloat.normalize
  split
  · rename_i negative
    rw [Int.compare_eq_lt] at negative
    omega
  · exact .zero .positive
  · unfold UnpackedFloat.round
    change Bounded _ _ (roundWithAccuracy _ _
      (number <<< (0 - max (number.log2 + 1 + 0 - 53 : Int) (-1074)).toNat)
      (0 - (0 - max (number.log2 + 1 + 0 - 53 : Int) (-1074)).toNat) .exact)
    have few : (0 - max (number.log2 + 1 + 0 - 53 : Int) (-1074)).toNat ≤ 52 := by omega
    have digitBound := Nat.le_trans (log2_shiftLeft_le bound
      (0 - max (number.log2 + 1 + 0 - 53 : Int) (-1074)).toNat) (Nat.add_le_add_left few digits)
    have notPositive :
        (0 - (0 - max (number.log2 + 1 + 0 - 53 : Int) (-1074)).toNat : Int) ≤ 0 := by omega
    refine (bounded_round .positive (by decide) digitBound notPositive).mono ?_
    omega

theorem bounded_small {number : Nat} (small : number < 2 ^ 53) :
    Bounded 52 456 (Float.ofNat number).toModel.unpack := by
  have byTable : Float.ofNat number =
      number.toUInt64.toFloat * Float.ofBits 0x3FF0000000000000 := by
    change Float.ofScientific number false 0 = _
    rw [Float.ofScientific, dif_pos ⟨small, by decide⟩]
    rfl
  have one : (Float.ofBits 0x3FF0000000000000).toModel.unpack =
      .finite .positive (2 ^ 52) (-52) (by decide) := rfl
  have wordDigits : number.toUInt64.toNat.log2 ≤ 63 := log2_le number.toUInt64.toNat_lt
  have word : Bounded 52 231 number.toUInt64.toFloat.toModel.unpack :=
    bounded_unpack_pack (bounded_ofNat wordDigits) (by decide) (by decide)
  have factor : Bounded 52 (-52) (Float.ofBits 0x3FF0000000000000).toModel.unpack := by
    rw [one]
    exact .finite _ _ (log2_le (by decide)) (Int.le_refl _)
  rw [byTable]
  exact (bounded_unpack_pack (bounded_mul word factor (by decide)) (by decide) (by decide)).mono
    (by decide)

theorem not_tiny (number : Nat) :
    ¬ (0 : Int) < -((2 ^ Format.binary64.exponentBits : Int) + number.log2) := by
  change ¬ (0 : Int) < -((2048 : Int) + number.log2)
  omega

theorem bounded_ofScientific {number : Nat} (positive : 0 < number) (bound : number.log2 ≤ 200) :
    Bounded 255 456 (UnpackedFloat.ofScientific Format.binary64 number 0) := by
  have shiftedPositive : 0 < number <<< Format.binary64.mantissaBits := by
    rw [Nat.shiftLeft_eq]
    exact Nat.mul_pos positive (Nat.two_pow_pos _)
  have shifted : Bounded 253 (-53) (.finite .positive (number <<< Format.binary64.mantissaBits)
      (-(Format.binary64.mantissaBits : Int)) shiftedPositive) :=
    .finite _ _ (log2_shiftLeft_le bound 53) (Int.le_refl (-53))
  have one : Bounded 0 0 (.finite .positive (10 ^ (0 : Int).toNat) 0 (by decide)) :=
    .finite _ _ (log2_le (by decide)) (Int.le_refl 0)
  have product := bounded_mul shifted one (by decide)
  rw [UnpackedFloat.ofScientific, dif_neg (by omega), if_neg (by decide),
    if_neg (not_tiny number), if_pos (by decide)]
  exact product.mono (by decide)

theorem ofNat_toModel {number : Nat} (large : ¬ number < 2 ^ 53) :
    (Float.ofNat number).toModel = Float.Model.ofScientific number 0 := by
  change (Float.ofScientific number false 0).toModel = _
  -- A number with more than 53 binary digits is read as a decimal.
  rw [Float.ofScientific, dif_neg fun fast => large fast.1]
  rfl

theorem bounded_large {number : Nat} (large : ¬ number < 2 ^ 53) (bound : number.log2 ≤ 200) :
    Bounded 52 456 (Float.ofNat number).toModel.unpack := by
  rw [ofNat_toModel large]
  exact bounded_unpack_pack (bounded_ofScientific (by omega) bound) (by decide) (by decide)

theorem bounded_toFloat {number : Nat} (bound : number.log2 ≤ 200) :
    Bounded 52 456 (Float.ofNat number).toModel.unpack := by
  by_cases small : number < 2 ^ 53
  · exact bounded_small small
  · exact bounded_large small bound

theorem bounded_ofInt {number : Int} (bound : number.natAbs.log2 ≤ 200) :
    Bounded 52 456 (Float.ofInt number).toModel.unpack := by
  cases number with
  | ofNat number => exact bounded_toFloat bound
  | negSucc number =>
      exact bounded_unpack_pack (bounded_toFloat bound).neg (by decide) (by decide)

/-! ## Whole numbers of any size -/

theorem isNaN_unpack_packComponents (sign : Sign) {exponent : BitVec Format.binary64.exponentBits}
    (below : exponent ≠ -1#_) (mantissa : BitVec Format.binary64.mantissaBitsWithoutImplicit) :
    (UnpackedFloat.unpack Format.binary64
      (packComponents Format.binary64 sign exponent mantissa)).isNaN = false := by
  unfold UnpackedFloat.unpack
  dsimp only
  rw [unpackExponent_packComponents, if_neg below]
  by_cases smallest : exponent = 0#_
  · rw [if_pos smallest]
    by_cases zero : unpackMantissa (packComponents Format.binary64 sign exponent mantissa) = 0#_
    · rw [dif_pos zero]
      rfl
    · rw [dif_neg zero]
      rfl
  · rw [if_neg smallest]
    rfl

theorem isNaN_unpack_packedInfinity (sign : Sign) :
    (UnpackedFloat.unpack Format.binary64 (packedInfinity Format.binary64 sign)).isNaN = false := by
  cases sign <;> rfl

theorem isNaN_unpack_pack {number : UnpackedFloat} (isNumber : number.isNaN = false) :
    (Float.Model.pack number).unpack.isNaN = false := by
  change (UnpackedFloat.unpack Format.binary64
    (UnpackedFloat.pack Format.binary64 number)).isNaN = false
  cases number with
  | notANumber => cases isNumber
  | infinity sign => exact isNaN_unpack_packedInfinity sign
  | zero sign => exact isNaN_unpack_packComponents sign (by decide) _
  | finite sign mantissa exponent positive =>
      unfold UnpackedFloat.pack
      dsimp only
      split
      · exact isNaN_unpack_packedInfinity sign
      · rename_i below
        split
        · refine isNaN_unpack_packComponents sign (fun largest => ?_) _
          have value := congrArg BitVec.toNat largest
          rw [BitVec.toNat_ofNat] at value
          change _ % 2 ^ 11 = 2047 at value
          change ¬ 2 ^ 11 ≤ _ at below
          omega
        · exact isNaN_unpack_packComponents sign (by decide) _

theorem isNaN_roundWithAccuracy (sign : Sign) (mantissa : Nat) (exponent : Int)
    (accuracy : Accuracy) :
    (roundWithAccuracy Format.binary64 sign mantissa exponent accuracy).isNaN = false := by
  unfold roundWithAccuracy
  generalize shiftToTargetExponent Format.binary64 mantissa exponent accuracy = first
  dsimp only
  by_cases zero : (shiftToTargetExponent Format.binary64 first.1.roundedMantissa first.2
      .exact).1.mantissa = 0
  · rw [dif_pos zero]
    rfl
  · rw [dif_neg zero]
    rfl

theorem isNaN_mul_finite (sign otherSign : Sign) {mantissa otherMantissa : Nat}
    {exponent otherExponent : Int} (positive : 0 < mantissa) (otherPositive : 0 < otherMantissa) :
    (UnpackedFloat.mul Format.binary64 (.finite sign mantissa exponent positive)
      (.finite otherSign otherMantissa otherExponent otherPositive)).isNaN = false :=
  isNaN_roundWithAccuracy _ _ _ _

theorem isNaN_ofNat (number : Nat) : (Float.ofNat number).toModel.unpack.isNaN = false := by
  by_cases small : number < 2 ^ 53
  · exact (bounded_small small).not_isNaN
  · rw [ofNat_toModel small]
    refine isNaN_unpack_pack ?_
    rw [UnpackedFloat.ofScientific, dif_neg (by omega), if_neg (by decide),
      if_neg (not_tiny number), if_pos (by decide)]
    exact isNaN_mul_finite _ _ _ _

theorem isNaN_ofInt (number : Int) : (Float.ofInt number).isNaN = false := by
  cases number with
  | ofNat number => exact isNaN_ofNat number
  | negSucc number =>
      refine isNaN_unpack_pack ?_
      have isNumber := isNaN_ofNat number.succ
      generalize (Float.ofNat number.succ).toModel.unpack = unpacked at *
      cases unpacked <;> first | rfl | cases isNumber

end FloatRange

theorem Number.real?_isSome {number : Number}
    (bound : ∀ whole, number.toInt? = some whole → whole.natAbs.log2 ≤ 200) :
    number.real?.isSome := by
  cases number with
  | flag value => cases value <;> decide +kernel
  | whole value =>
      have finite : (Float.ofInt value).isInf = false :=
        (FloatRange.bounded_ofInt (bound value rfl)).not_isInf
      simp [real?, toFloat, finite]
  | real value => rfl

end Chip8
