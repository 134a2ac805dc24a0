import Mathlib.Algebra.Order.Field.Power
import Mathlib.Algebra.Order.Field.Rat
import Mathlib.Data.Nat.Cast.Order.Field
import Mathlib.Tactic.FieldSimp
import Mathlib.Tactic.Linarith
import Mathlib.Tactic.NormNum
import Mathlib.Tactic.Positivity
import Mathlib.Tactic.Ring
import Chip8.Decimal.Quotient
import Chip8.Proofs.Decimal.FloatRange

/-!
# How large floating-point numbers get

The result of an operation is rounded, so it may be larger than the exact one, but by less than its
last binary digit is worth. `Within` bounds a number, and `widened` is what a bound becomes when a
number is rounded; that leaves enough to tell which whole number is nearest to a result.
-/

namespace Chip8
namespace FloatSize
open Float.Model Float.Model.UnpackedFloat

/-- Zero, or a finite number that is at most so far from zero. -/
inductive Within (bound : ℚ) : UnpackedFloat → Prop where
  | zero (sign : Sign) : Within bound (.zero sign)
  | finite (sign : Sign) {mantissa : Nat} {exponent : Int} (positive : 0 < mantissa)
      (small : (mantissa : ℚ) * 2 ^ exponent ≤ bound) :
      Within bound (.finite sign mantissa exponent positive)

/-- Room for a bound to grow when a number is rounded. -/
def widened (bound : ℚ) : ℚ := bound + (bound + 1) / 2 ^ 52

variable {bound : ℚ}

theorem le_widened (nonneg : 0 ≤ bound) : bound ≤ widened bound := by
  have room : 0 ≤ (bound + 1) / 2 ^ 52 := by positivity
  exact le_add_of_nonneg_right room

theorem Within.mono {larger : ℚ} {number : UnpackedFloat} (within : Within bound number)
    (below : bound ≤ larger) : Within larger number := by
  cases within with
  | zero sign => exact .zero sign
  | finite sign positive small => exact .finite sign positive (small.trans below)

theorem Within.neg {number : UnpackedFloat} (within : Within bound number) :
    Within bound number.neg := by
  cases within with
  | zero sign => exact .zero _
  | finite sign positive small => exact .finite _ positive small

/-! ## Rounding -/

theorem shift_mantissa (extended : ExtendedMantissa) (count : Nat) :
    (extended >>> count).mantissa = extended.mantissa / 2 ^ count := by
  induction count with
  | zero => exact (Nat.div_one _).symm
  | succ count ih =>
      change (extended >>> count).mantissa / 2 = _
      rw [ih, Nat.div_div_eq_div_mul, Nat.pow_succ]

theorem ofMantissaAndAccuracy_mantissa (mantissa : Nat) (accuracy : Accuracy) :
    (ExtendedMantissa.ofMantissaAndAccuracy mantissa accuracy).mantissa = mantissa := by
  cases accuracy with
  | exact => rfl
  | inexact ordering => cases ordering <;> rfl

def unit (mantissa : Nat) (exponent : Int) : Int :=
  max (mantissa.log2 + 1 + exponent - 53) (-1074)

theorem shifted_value_le (mantissa : Nat) (exponent : Int) (accuracy : Accuracy) :
    let shifted := shiftToTargetExponent Format.binary64 mantissa exponent accuracy
    (shifted.1.mantissa : ℚ) * 2 ^ shifted.2 ≤ mantissa * 2 ^ exponent := by
  let count := (unit mantissa exponent - exponent).toNat
  change (((ExtendedMantissa.ofMantissaAndAccuracy mantissa accuracy) >>> count).mantissa : ℚ) *
    2 ^ (exponent + (count : Int)) ≤ _
  rw [shift_mantissa, ofMantissaAndAccuracy_mantissa, zpow_add₀ two_ne_zero, zpow_natCast,
    mul_comm ((2 : ℚ) ^ exponent), ← mul_assoc]
  have floor : ((mantissa / 2 ^ count : Nat) : ℚ) * 2 ^ count ≤ mantissa := by
    exact_mod_cast Nat.div_mul_le_self mantissa (2 ^ count)
  exact mul_le_mul_of_nonneg_right floor (by positivity)

theorem two_zpow_last_le {leading : Int} (nonneg : 0 ≤ bound)
    (small : (2 : ℚ) ^ leading ≤ bound + 1) :
    (2 : ℚ) ^ max (leading - 52) (-1074) ≤ (bound + 1) / 2 ^ 52 := by
  rcases max_choice (leading - 52) (-1074) with same | same
  · calc (2 : ℚ) ^ max (leading - 52) (-1074) = 2 ^ leading / 2 ^ 52 := by
          rw [same, zpow_sub₀ two_ne_zero]
          rfl
      _ ≤ (bound + 1) / 2 ^ 52 := by gcongr
  · calc (2 : ℚ) ^ max (leading - 52) (-1074) ≤ 2 ^ (-52 : Int) := by
          rw [same]
          exact zpow_le_zpow_right₀ one_le_two (by decide)
      _ = 1 / 2 ^ 52 := by norm_num
      _ ≤ (bound + 1) / 2 ^ 52 := by gcongr; linarith

theorem two_zpow_unit_le {mantissa : Nat} {exponent : Int}
    (small : (mantissa : ℚ) * 2 ^ exponent ≤ bound) (below : exponent ≤ unit mantissa exponent) :
    (2 : ℚ) ^ unit mantissa exponent ≤ (bound + 1) / 2 ^ 52 := by
  have nonneg : 0 ≤ bound := le_trans (by positivity) small
  rcases Nat.eq_zero_or_pos mantissa with rfl | positive
  · -- Zero has no leading digit, and its exponent is the least one.
    have least : unit 0 exponent = max (-1022 - 52) (-1074) := by
      unfold unit at below ⊢
      rw [Nat.log2_zero] at below ⊢
      omega
    have tiny : (2 : ℚ) ^ (-1022 : Int) ≤ 1 := zpow_le_one_of_nonpos₀ one_le_two (by decide)
    rw [least]
    exact two_zpow_last_le nonneg (by linarith)
  · have leading : (2 : ℚ) ^ ((mantissa.log2 : Int) + exponent) ≤ bound := by
      have digit : (2 : ℚ) ^ mantissa.log2 ≤ mantissa := by
        exact_mod_cast Nat.log2_self_le positive.ne'
      rw [zpow_add₀ two_ne_zero, zpow_natCast]
      exact le_trans (by gcongr) small
    have last : unit mantissa exponent = max ((mantissa.log2 : Int) + exponent - 52) (-1074) := by
      unfold unit
      omega
    rw [last]
    exact two_zpow_last_le nonneg (by linarith)

theorem rounded_value_le {mantissa : Nat} {exponent : Int} {accuracy : Accuracy}
    (small : (mantissa : ℚ) * 2 ^ exponent ≤ bound)
    (fine : accuracy = .exact ∨ exponent ≤ unit mantissa exponent) :
    let shifted := shiftToTargetExponent Format.binary64 mantissa exponent accuracy
    (shifted.1.roundedMantissa : ℚ) * 2 ^ shifted.2 ≤ widened bound := by
  intro shifted
  have nonneg : 0 ≤ bound := le_trans (by positivity) small
  by_cases below : exponent ≤ unit mantissa exponent
  · have exponent_eq : shifted.2 = unit mantissa exponent := by
      change exponent + ((unit mantissa exponent - exponent).toNat : Int) = _
      omega
    have rounded : (shifted.1.roundedMantissa : ℚ) ≤ shifted.1.mantissa + 1 := by
      exact_mod_cast FloatRange.roundedMantissa_le shifted.1
    have floor := (shifted_value_le mantissa exponent accuracy).trans small
    have step := two_zpow_unit_le small below
    calc (shifted.1.roundedMantissa : ℚ) * 2 ^ shifted.2
        ≤ (shifted.1.mantissa + 1) * 2 ^ shifted.2 := by gcongr
      _ = shifted.1.mantissa * 2 ^ shifted.2 + 2 ^ unit mantissa exponent := by
          rw [add_mul, one_mul, ← exponent_eq]
      _ ≤ bound + (bound + 1) / 2 ^ 52 := add_le_add floor step
  · -- A number that is exact and needs no shift is left as it is.
    have exact : accuracy = .exact := fine.resolve_right below
    subst exact
    have none : (unit mantissa exponent - exponent).toNat = 0 := by omega
    have same : shifted = (⟨mantissa, false, false⟩, exponent) := by
      change ((⟨mantissa, false, false⟩ : ExtendedMantissa) >>>
        (unit mantissa exponent - exponent).toNat,
        exponent + ((unit mantissa exponent - exponent).toNat : Int)) = _
      rw [none]
      exact Prod.ext rfl (add_zero exponent)
    rw [same]
    exact small.trans (le_widened nonneg)

theorem within_round (sign : Sign) {mantissa : Nat} {exponent : Int} {accuracy : Accuracy}
    (small : (mantissa : ℚ) * 2 ^ exponent ≤ bound)
    (fine : accuracy = .exact ∨ exponent ≤ unit mantissa exponent) :
    Within (widened bound)
      (roundWithAccuracy Format.binary64 sign mantissa exponent accuracy) := by
  have rounded := rounded_value_le small fine
  unfold roundWithAccuracy
  generalize shiftToTargetExponent Format.binary64 mantissa exponent accuracy = first at *
  have again := shifted_value_le first.1.roundedMantissa first.2 .exact
  dsimp only at again rounded ⊢
  by_cases zero : (shiftToTargetExponent Format.binary64 first.1.roundedMantissa first.2
      .exact).1.mantissa = 0
  · rw [dif_pos zero]
    exact .zero sign
  · rw [dif_neg zero]
    exact .finite sign _ (again.trans rounded)

/-! ## Products and quotients -/

theorem within_mul {left right : UnpackedFloat} {rightBound : ℚ} (leftWithin : Within bound left)
    (rightWithin : Within rightBound right) :
    Within (widened (bound * rightBound)) (mul Format.binary64 left right) := by
  cases leftWithin with
  | zero => cases rightWithin <;> exact .zero _
  | @finite sign mantissa exponent positive small =>
      cases rightWithin with
      | zero => exact .zero _
      | @finite rightSign rightMantissa rightExponent rightPositive rightSmall =>
          refine within_round _ ?_ (.inl rfl)
          have nonneg : 0 ≤ bound := le_trans (by positivity) small
          rw [zpow_add₀ two_ne_zero, Nat.cast_mul]
          calc (mantissa : ℚ) * rightMantissa * (2 ^ exponent * 2 ^ rightExponent)
              = mantissa * 2 ^ exponent * (rightMantissa * 2 ^ rightExponent) := by ring
            _ ≤ bound * rightBound := by gcongr

/-- A finite number that is at least so far from zero. -/
inductive Beyond (bound : ℚ) : UnpackedFloat → Prop where
  | finite (sign : Sign) {mantissa : Nat} {exponent : Int} (positive : 0 < mantissa)
      (large : bound ≤ (mantissa : ℚ) * 2 ^ exponent) :
      Beyond bound (.finite sign mantissa exponent positive)

theorem le_unit_of_divCore {left right : Nat} (leftPositive : 0 < left) (leftExponent : Int)
    (rightPositive : 0 < right) (rightExponent : Int) :
    let core := divCore Format.binary64 left leftExponent right rightExponent
    core.2.1 ≤ unit core.1 core.2.1 := by
  intro core
  let target : Int := max (left.log2 + 1 + leftExponent - (right.log2 + 1 + rightExponent) - 53)
    (-1074)
  have exponent_eq : core.2.1 = min (leftExponent - rightExponent) target := rfl
  let count := (leftExponent - rightExponent - core.2.1).toNat
  have mantissa_eq : core.1 = left <<< count / right := rfl
  by_cases lowest : core.2.1 ≤ -1074
  · exact lowest.trans (le_max_right _ _)
  -- The quotient is computed with so many binary digits that its last one is never rounded away.
  · have digits : right.log2 + 53 ≤ left.log2 + count := by omega
    have enough : 2 ^ 52 ≤ core.1 := by
      rw [mantissa_eq, Nat.le_div_iff_mul_le rightPositive, Nat.shiftLeft_eq]
      have leading : right < 2 ^ (right.log2 + 1) := Nat.lt_log2_self
      calc 2 ^ 52 * right ≤ 2 ^ 52 * 2 ^ (right.log2 + 1) := by gcongr
        _ = 2 ^ (right.log2 + 53) := by rw [← Nat.pow_add]; congr 1; omega
        _ ≤ 2 ^ (left.log2 + count) := Nat.pow_le_pow_right (by decide) digits
        _ = 2 ^ left.log2 * 2 ^ count := Nat.pow_add ..
        _ ≤ left * 2 ^ count := by gcongr; exact Nat.log2_self_le leftPositive.ne'
    have log : 52 ≤ core.1.log2 := (Nat.le_log2 (by omega)).mpr enough
    unfold unit
    omega

theorem divCore_value_le (left : Nat) (leftExponent : Int) {right : Nat}
    (rightPositive : 0 < right) (rightExponent : Int) :
    let core := divCore Format.binary64 left leftExponent right rightExponent
    (core.1 : ℚ) * 2 ^ core.2.1 ≤ left * 2 ^ leftExponent / (right * 2 ^ rightExponent) := by
  intro core
  let count := (leftExponent - rightExponent - core.2.1).toNat
  have exponent_le : core.2.1 ≤ leftExponent - rightExponent := min_le_left _ _
  have exponent_eq : (count : Int) + core.2.1 = leftExponent - rightExponent := by omega
  have mantissa_eq : core.1 = left * 2 ^ count / right :=
    congrArg (· / right) (Nat.shiftLeft_eq left count)
  have floor : (core.1 : ℚ) ≤ left * 2 ^ count / right := by
    rw [mantissa_eq]
    exact_mod_cast Nat.cast_div_le
  calc (core.1 : ℚ) * 2 ^ core.2.1 ≤ left * 2 ^ count / right * 2 ^ core.2.1 := by gcongr
    _ = left * 2 ^ ((count : Int) + core.2.1) / right := by
        rw [zpow_add₀ two_ne_zero, zpow_natCast]
        ring
    _ = left * 2 ^ leftExponent / (right * 2 ^ rightExponent) := by
        rw [exponent_eq, zpow_sub₀ two_ne_zero]
        field_simp

theorem within_div {left right : UnpackedFloat} {rightBound : ℚ} (leftWithin : Within bound left)
    (rightBeyond : Beyond rightBound right) (rightPositive : 0 < rightBound) :
    Within (widened (bound / rightBound)) (div Format.binary64 left right) := by
  cases rightBeyond with
  | @finite rightSign rightMantissa rightExponent positive large =>
      cases leftWithin with
      | zero => exact .zero _
      | @finite sign mantissa exponent leftPositive small =>
          refine within_round _ ?_ (.inr (le_unit_of_divCore leftPositive _ positive _))
          have nonneg : 0 ≤ bound := le_trans (by positivity) small
          refine (divCore_value_le mantissa exponent positive rightExponent).trans ?_
          exact div_le_div₀ nonneg small rightPositive large

/-! ## Packing -/

theorem one_append_toNat (fraction : BitVec 52) :
    (1#1 ++ fraction).toNat = 2 ^ 52 + fraction.toNat := by
  have small : fraction.toNat < 2 ^ 52 := fraction.isLt
  rw [BitVec.toNat_append, ← Nat.shiftLeft_add_eq_or_of_lt small]
  rfl

theorem unpack_of_normal {bits : BitVec Format.binary64.numBits}
    (notZero : unpackExponent bits ≠ 0#_) (notLargest : unpackExponent bits ≠ -1#_) :
    UnpackedFloat.unpack Format.binary64 bits =
      .finite (Sign.ofBitVec (unpackSign bits)) (2 ^ 52 + (unpackMantissa bits).toNat)
        ((unpackExponent bits).toNat - 1075) (by omega) := by
  unfold UnpackedFloat.unpack
  dsimp only
  rw [if_neg notLargest, if_neg notZero, UnpackedFloat.finite.injEq]
  exact ⟨rfl, one_append_toNat _, rfl⟩

theorem unpack_of_largest {bits : BitVec Format.binary64.numBits}
    (largest : unpackExponent bits = -1#_) :
    UnpackedFloat.unpack Format.binary64 bits =
      if unpackMantissa bits = 0#_ then .infinity (Sign.ofBitVec (unpackSign bits))
      else .notANumber := by
  unfold UnpackedFloat.unpack
  dsimp only
  rw [if_pos largest]

theorem unpack_of_subnormal {bits : BitVec Format.binary64.numBits}
    (zero : unpackExponent bits = 0#_) :
    UnpackedFloat.unpack Format.binary64 bits =
      if none : unpackMantissa bits = 0#_ then .zero (Sign.ofBitVec (unpackSign bits))
      else .finite (Sign.ofBitVec (unpackSign bits)) (unpackMantissa bits).toNat (-1074)
        (Nat.pos_of_ne_zero fun same => none (BitVec.eq_of_toNat_eq same)) := by
  have notLargest : unpackExponent bits ≠ -1#_ := by rw [zero]; decide
  have exponent_eq : ((unpackExponent bits).toNat : Int) - 1075 + 1 = -1074 := by rw [zero]; rfl
  unfold UnpackedFloat.unpack
  dsimp only
  rw [if_neg notLargest, if_pos zero]
  by_cases none : unpackMantissa bits = 0#_
  · rw [dif_pos none, dif_pos none]
  · rw [dif_neg none, dif_neg none, UnpackedFloat.finite.injEq]
    exact ⟨rfl, rfl, exponent_eq⟩

theorem within_unpack_of_subnormal {bits : BitVec Format.binary64.numBits}
    (zero : unpackExponent bits = 0#_) (atLeastOne : 1 ≤ bound) :
    Within bound (UnpackedFloat.unpack Format.binary64 bits) := by
  rw [unpack_of_subnormal zero]
  by_cases none : unpackMantissa bits = 0#_
  · rw [dif_pos none]
    exact .zero _
  · rw [dif_neg none]
    refine .finite _ _ (le_trans ?_ atLeastOne)
    have small : (unpackMantissa bits).toNat ≤ 2 ^ 52 := (unpackMantissa bits).isLt.le
    calc ((unpackMantissa bits).toNat : ℚ) * 2 ^ (-1074 : Int)
        ≤ 2 ^ 52 * 2 ^ (-52 : Int) := by
          gcongr
          · exact_mod_cast small
          · exact one_le_two
          · decide
      _ = 1 := by norm_num

theorem within_unpack_packComponents (sign : Sign) {exponent : BitVec 11} {fraction : BitVec 52}
    (notLargest : exponent ≠ -1#11) (atLeastOne : 1 ≤ bound)
    (small : exponent = 0#11 ∨
      ((2 ^ 52 + fraction.toNat : Nat) : ℚ) * 2 ^ ((exponent.toNat : Int) - 1075) ≤ bound) :
    Within bound (UnpackedFloat.unpack Format.binary64
      (packComponents Format.binary64 sign exponent fraction)) := by
  have exponent_eq := @unpackExponent_packComponents Format.binary64 sign exponent fraction
  have fraction_eq := @unpackMantissa_packComponents Format.binary64 sign exponent fraction
  by_cases zero : exponent = 0#11
  · exact within_unpack_of_subnormal (exponent_eq.trans zero) atLeastOne
  · rw [unpack_of_normal (exponent_eq.trans_ne zero) (exponent_eq.trans_ne notLargest)]
    refine .finite _ _ ?_
    rw [exponent_eq, fraction_eq]
    exact small.resolve_left zero

theorem within_unpack_of_biased (sign : Sign) {mantissa : Nat} {exponent : Int}
    (leading : 2 ^ 52 ≤ mantissa) (below : mantissa < 2 ^ 53) (notLarge : exponent ≤ 200)
    (atLeastOne : 1 ≤ bound) (small : (mantissa : ℚ) * 2 ^ exponent ≤ bound) :
    Within bound (UnpackedFloat.unpack Format.binary64 (packComponents Format.binary64 sign
      (BitVec.ofNat 11 (exponent + 1023 + 52).toNat) (BitVec.ofNat 52 mantissa))) := by
  have field : (BitVec.ofNat 11 (exponent + 1023 + 52).toNat).toNat = (exponent + 1075).toNat := by
    rw [BitVec.toNat_ofNat, Nat.mod_eq_of_lt (by omega)]
    omega
  have fraction : 2 ^ 52 + (BitVec.ofNat 52 mantissa).toNat = mantissa := by
    rw [BitVec.toNat_ofNat]
    omega
  refine within_unpack_packComponents sign ?_ atLeastOne (or_iff_not_imp_left.mpr ?_)
  · intro largest
    have value : (exponent + 1075).toNat = 2047 := field.symm.trans (by rw [largest]; rfl)
    omega
  · intro notZero
    have counts : (exponent + 1075).toNat ≠ 0 := fun zero =>
      notZero (BitVec.eq_of_toNat_eq (field.trans zero))
    have exponent_eq : ((exponent + 1075).toNat : Int) - 1075 = exponent := by omega
    rw [field, exponent_eq, fraction]
    exact small

theorem within_unpack_pack {number : UnpackedFloat} (within : Within bound number)
    (atLeastOne : 1 ≤ bound) (fits : bound ≤ 2 ^ 200) :
    Within bound (Float.Model.pack number).unpack := by
  change Within bound
    (UnpackedFloat.unpack Format.binary64 (UnpackedFloat.pack Format.binary64 number))
  cases within with
  | zero sign => exact within_unpack_packComponents sign (by decide) atLeastOne (.inl rfl)
  | @finite sign mantissa exponent positive small =>
      have notLarge : exponent ≤ 200 := by
        have power : (2 : ℚ) ^ exponent ≤ 2 ^ (200 : Int) := by
          refine le_trans ?_ (small.trans fits)
          exact le_mul_of_one_le_left (by positivity) (by exact_mod_cast positive)
        exact (zpow_le_zpow_iff_right₀ one_lt_two).mp power
      have notLargest : ¬ 2 ^ 11 ≤ (exponent + 1023 + 52).toNat + 1 := by omega
      change Within bound
        (UnpackedFloat.unpack _ (if 2 ^ 11 ≤ (exponent + 1023 + 52).toNat + 1 then _ else _))
      rw [if_neg notLargest]
      split
      · rename_i digits
        have digits : mantissa.log2 = 52 := Nat.succ.inj digits
        exact within_unpack_of_biased sign (digits ▸ Nat.log2_self_le positive.ne')
          (FloatRange.lt_two_pow digits.le) notLarge atLeastOne small
      · exact within_unpack_packComponents sign (by decide) atLeastOne (.inl rfl)

/-! ## Whole numbers -/

theorem within_ofNat (number : Nat) :
    Within (widened number) (UnpackedFloat.ofNat Format.binary64 number) := by
  unfold UnpackedFloat.ofNat UnpackedFloat.ofInt UnpackedFloat.normalize
  split
  · rename_i negative
    rw [Int.compare_eq_lt] at negative
    omega
  · exact .zero .positive
  · unfold UnpackedFloat.round
    let count := (0 - unit number 0).toNat
    change Within _ (roundWithAccuracy _ _ (number <<< count) (0 - (count : Int)) .exact)
    refine within_round .positive (le_of_eq ?_) (.inl rfl)
    rw [Nat.shiftLeft_eq, zero_sub, Nat.cast_mul, Nat.cast_pow, mul_assoc, zpow_neg, zpow_natCast]
    exact mul_right_eq_self₀.mpr (.inl (mul_inv_cancel₀ (by positivity)))

theorem one_unpack : (Float.ofInt 1).toModel.unpack =
    .finite .positive (2 ^ 52) (-52) (by decide) := rfl

theorem zero_unpack : (Float.ofInt 0).toModel.unpack = .zero .positive := rfl

theorem within_ofInt {number : Nat} (positive : 0 < number) (small : number < 2 ^ 53) :
    Within (widened (widened number)) (Float.ofInt number).toModel.unpack := by
  have atLeastOne : (1 : ℚ) ≤ number := by exact_mod_cast positive
  have atMost : (number : ℚ) ≤ 2 ^ 53 := by exact_mod_cast small.le
  have byTable : Float.ofInt number = number.toUInt64.toFloat * Float.ofInt 1 := by
    change Float.ofScientific number false 0 = _
    rw [Float.ofScientific, dif_pos ⟨small, by decide⟩]
    rfl
  have same : number.toUInt64.toNat = number := by
    rw [Nat.toUInt64, UInt64.toNat_ofNat']
    exact Nat.mod_eq_of_lt (small.trans (by decide))
  have word : Within (widened number) number.toUInt64.toFloat.toModel.unpack := by
    have rounded : Within (widened number.toUInt64.toNat)
        (UnpackedFloat.ofUInt64 Format.binary64 number.toUInt64) := within_ofNat _
    rw [same] at rounded
    exact within_unpack_pack rounded (by unfold widened; linarith) (by unfold widened; linarith)
  have factor : Within 1 (Float.ofInt 1).toModel.unpack := by
    rw [one_unpack]
    exact .finite _ _ (by norm_num)
  have product := within_mul word factor
  rw [mul_one] at product
  rw [byTable]
  exact within_unpack_pack product (by unfold widened; linarith) (by unfold widened; linarith)

/-! ## Comparisons -/

theorem mantissa_lt_of_unpack {bits : BitVec Format.binary64.numBits} {sign : Sign}
    {mantissa : Nat} {exponent : Int} {positive : 0 < mantissa}
    (unpacked : UnpackedFloat.unpack Format.binary64 bits =
      .finite sign mantissa exponent positive) : mantissa < 2 ^ 53 := by
  have small : (unpackMantissa bits).toNat < 2 ^ 52 := (unpackMantissa bits).isLt
  by_cases largest : unpackExponent bits = -1#_
  · rw [unpack_of_largest largest] at unpacked
    by_cases none : unpackMantissa bits = 0#_
    · rw [if_pos none] at unpacked
      cases unpacked
    · rw [if_neg none] at unpacked
      cases unpacked
  · by_cases zero : unpackExponent bits = 0#_
    · rw [unpack_of_subnormal zero] at unpacked
      by_cases none : unpackMantissa bits = 0#_
      · rw [dif_pos none] at unpacked
        cases unpacked
      · rw [dif_neg none] at unpacked
        cases unpacked
        omega
    · rw [unpack_of_normal zero largest] at unpacked
      cases unpacked
      omega

theorem within_one {value : Float} (nonneg : Float.ofInt 0 ≤ value)
    (atMost : value ≤ Float.ofInt 1) : Within 1 value.toModel.unpack := by
  have nonneg : UnpackedFloat.le (Float.ofInt 0).toModel.unpack value.toModel.unpack :=
    of_decide_eq_true nonneg
  have atMost : UnpackedFloat.le value.toModel.unpack (Float.ofInt 1).toModel.unpack :=
    of_decide_eq_true atMost
  rw [zero_unpack] at nonneg
  rw [one_unpack] at atMost
  cases unpacked : value.toModel.unpack with
  | infinity sign =>
      rw [unpacked] at nonneg atMost
      cases sign with
      | positive => cases atMost
      | negative => cases nonneg
  | notANumber =>
      rw [unpacked] at nonneg
      cases nonneg
  | zero sign => exact .zero sign
  | finite sign mantissa exponent positive =>
      have digits := mantissa_lt_of_unpack unpacked
      rw [unpacked] at nonneg atMost
      cases sign with
      | negative => cases nonneg
      | positive =>
          refine .finite _ _ ?_
          change ((compare exponent (-52)).then (compare mantissa (2 ^ 52))).isLE at atMost
          rcases lt_trichotomy exponent (-52) with below | rfl | above
          · calc (mantissa : ℚ) * 2 ^ exponent ≤ 2 ^ 53 * 2 ^ (-53 : Int) := by
                  gcongr
                  · exact_mod_cast digits.le
                  · exact one_le_two
                  · omega
              _ = 1 := by norm_num
          · rw [compare_eq_iff_eq.mpr rfl] at atMost
            have leading : mantissa ≤ 2 ^ 52 := Nat.isLE_compare.mp atMost
            calc (mantissa : ℚ) * 2 ^ (-52 : Int) ≤ 2 ^ 52 * 2 ^ (-52 : Int) := by
                  gcongr
                  exact_mod_cast leading
              _ = 1 := by norm_num
          · rw [compare_gt_iff_gt.mpr above] at atMost
            cases atMost

/-! ## Decoding -/

section Decoding
open Decimal

def decoded (negative : Bool) : UnpackedFloat → Binary
  | .infinity _ => .infinite negative
  | .notANumber => .notANumber
  | .zero _ => .finite negative ⟨0, -1074⟩
  | .finite _ mantissa exponent _ => .finite negative ⟨mantissa, exponent⟩

theorem isZero_iff {width : Nat} (field : BitVec width) :
    field.toNat = 0 ↔ field = BitVec.ofNat width 0 := by
  rw [← BitVec.toNat_inj, BitVec.toNat_zero]

theorem exponentField (bits : UInt64) :
    (@unpackExponent Format.binary64 bits.toBitVec).toNat = ((bits >>> 52) &&& 0x7FF).toNat := by
  change (BitVec.extractLsb 62 52 bits.toBitVec).toNat = _
  rw [BitVec.extractLsb_toNat, UInt64.toNat_and, UInt64.toNat_shiftRight]
  exact (Nat.and_two_pow_sub_one_eq_mod (bits.toNat >>> 52) 11).symm

theorem fractionField (bits : UInt64) :
    (@unpackMantissa Format.binary64 bits.toBitVec).toNat = (bits &&& 0xFFFFFFFFFFFFF).toNat := by
  change (BitVec.extractLsb 51 0 bits.toBitVec).toNat = _
  rw [BitVec.extractLsb_toNat, UInt64.toNat_and]
  exact (Nat.and_two_pow_sub_one_eq_mod bits.toNat 52).symm

theorem ofFloat_eq (value : Float) :
    ∃ negative, Binary.ofFloat value = decoded negative value.toModel.unpack := by
  obtain ⟨⟨bits, valid⟩⟩ := value
  refine ⟨bits >>> 63 == 1, ?_⟩
  change Binary.ofBits bits =
    decoded _ (UnpackedFloat.unpack Format.binary64 bits.toBitVec)
  unfold Binary.ofBits
  rw [← exponentField, ← fractionField]
  dsimp only
  by_cases largest : @unpackExponent Format.binary64 bits.toBitVec = -1#_
  · have field : (@unpackExponent Format.binary64 bits.toBitVec).toNat = 0x7FF := by
      rw [largest]
      rfl
    rw [unpack_of_largest largest, if_pos field]
    by_cases none : @unpackMantissa Format.binary64 bits.toBitVec = 0#_
    · have nothing := (isZero_iff _).mpr none
      rw [if_pos none, if_pos nothing]
      rfl
    · have something := (isZero_iff _).not.mpr none
      rw [if_neg none, if_neg something]
      rfl
  · have field : (@unpackExponent Format.binary64 bits.toBitVec).toNat ≠ 0x7FF := fun same =>
      largest (BitVec.eq_of_toNat_eq same)
    rw [if_neg field]
    by_cases zero : @unpackExponent Format.binary64 bits.toBitVec = 0#_
    · rw [unpack_of_subnormal zero, if_pos ((isZero_iff _).mpr zero)]
      by_cases none : @unpackMantissa Format.binary64 bits.toBitVec = 0#_
      · rw [dif_pos none, none]
        rfl
      · rw [dif_neg none]
        rfl
    · have some := (isZero_iff _).not.mpr zero
      rw [unpack_of_normal zero largest, if_neg some]
      rfl

theorem two_zpow_eq (exponent : Int) :
    (2 : ℚ) ^ exponent = 2 ^ exponent.toNat / 2 ^ (-exponent).toNat := by
  have split : exponent = (exponent.toNat : Int) - ((-exponent).toNat : Int) := by omega
  conv_lhs => rw [split]
  rw [zpow_sub₀ two_ne_zero, zpow_natCast, zpow_natCast]

theorem value_eq (magnitude : Magnitude) :
    (magnitude.significand : ℚ) * 2 ^ magnitude.exponent =
      magnitude.numerator / magnitude.denominator := by
  change _ = ((magnitude.significand * 2 ^ magnitude.exponent.toNat : Nat) : ℚ) /
    ((2 ^ (-magnitude.exponent).toNat : Nat) : ℚ)
  rw [two_zpow_eq]
  push_cast
  ring

theorem floor_le (magnitude : Magnitude) :
    (magnitude.floor : ℚ) ≤ magnitude.significand * 2 ^ magnitude.exponent := by
  rw [value_eq]
  exact Nat.cast_div_le

theorem nearest_le (numerator : Nat) {denominator : Nat} (positive : 0 < denominator) :
    (nearest numerator denominator : ℚ) ≤ (numerator : ℚ) / denominator + 1 / 2 := by
  have above := (nearest_within_half numerator denominator positive).1
  have cast : (2 : ℚ) * (nearest numerator denominator * denominator) ≤
      2 * numerator + denominator := by exact_mod_cast above
  have positive : (0 : ℚ) < denominator := by exact_mod_cast positive
  rw [div_add_div _ _ positive.ne' two_ne_zero, le_div_iff₀ (by positivity)]
  linarith

theorem ofFloat_of_within {value : Float} (within : Within bound value.toModel.unpack)
    (nonneg : 0 ≤ bound) :
    ∃ negative magnitude, Binary.ofFloat value = .finite negative magnitude ∧
      (magnitude.significand : ℚ) * 2 ^ magnitude.exponent ≤ bound := by
  obtain ⟨negative, same⟩ := ofFloat_eq value
  rw [same]
  generalize value.toModel.unpack = unpacked at within
  cases within with
  | zero sign => exact ⟨negative, ⟨0, -1074⟩, rfl, by simpa using nonneg⟩
  | finite sign positive small => exact ⟨negative, _, rfl, small⟩

theorem beyond_of_ofFloat {value : Float} {negative : Bool} {magnitude : Magnitude}
    (found : Binary.ofFloat value = .finite negative magnitude) (positive : 0 < bound)
    (large : bound ≤ (magnitude.significand : ℚ) * 2 ^ magnitude.exponent) :
    Beyond bound value.toModel.unpack := by
  obtain ⟨_, same⟩ := ofFloat_eq value
  rw [same] at found
  cases unpacked : value.toModel.unpack with
  | infinity sign => rw [unpacked] at found; cases found
  | notANumber => rw [unpacked] at found; cases found
  | zero sign =>
      rw [unpacked] at found
      cases found
      have none : bound ≤ 0 := by simpa using large
      exact absurd positive none.not_gt
  | finite sign mantissa exponent positive =>
      rw [unpacked] at found
      cases found
      exact .finite sign positive large

end Decoding

end FloatSize
end Chip8
