import Chip8.Proofs.Decimal.FloatSize

namespace Chip8
namespace FloatSize
open Decimal Float.Model Float.Model.UnpackedFloat

variable {numerator denominator : Nat} {bound : ℚ}

/-! ## The leading digit -/

theorem log2_ratio_lt (positive : 0 < numerator) (denominatorPositive : 0 < denominator) :
    (2 : ℚ) ^ ((numerator.log2 : Int) - denominator.log2 - 1) < numerator / denominator ∧
      (numerator : ℚ) / denominator < 2 ^ ((numerator.log2 : Int) - denominator.log2 + 1) := by
  have low : (2 : ℚ) ^ numerator.log2 ≤ numerator := by
    exact_mod_cast Nat.log2_self_le positive.ne'
  have high : (numerator : ℚ) < 2 ^ (numerator.log2 + 1) := by
    exact_mod_cast Nat.lt_log2_self
  have denominatorLow : (2 : ℚ) ^ denominator.log2 ≤ denominator := by
    exact_mod_cast Nat.log2_self_le denominatorPositive.ne'
  have denominatorHigh : (denominator : ℚ) < 2 ^ (denominator.log2 + 1) := by
    exact_mod_cast Nat.lt_log2_self
  have some : (0 : ℚ) < denominator := by exact_mod_cast denominatorPositive
  constructor
  · rw [lt_div_iff₀ some]
    calc (2 : ℚ) ^ ((numerator.log2 : Int) - denominator.log2 - 1) * denominator
        < 2 ^ ((numerator.log2 : Int) - denominator.log2 - 1) * 2 ^ (denominator.log2 + 1) := by
          gcongr
      _ = 2 ^ numerator.log2 := by
          rw [← zpow_natCast, ← zpow_natCast, ← zpow_add₀ two_ne_zero]
          congr 1
          push_cast
          ring
      _ ≤ numerator := low
  · rw [div_lt_iff₀ some]
    calc (numerator : ℚ) < 2 ^ (numerator.log2 + 1) := high
      _ = 2 ^ ((numerator.log2 : Int) - denominator.log2 + 1) * 2 ^ denominator.log2 := by
          rw [← zpow_natCast, ← zpow_natCast, ← zpow_add₀ two_ne_zero]
          congr 1
          push_cast
          ring
      _ ≤ 2 ^ ((numerator.log2 : Int) - denominator.log2 + 1) * denominator := by gcongr

theorem leadingExponent_spec (positive : 0 < numerator) (denominatorPositive : 0 < denominator) :
    (2 : ℚ) ^ leadingExponent numerator denominator ≤ numerator / denominator ∧
      (numerator : ℚ) / denominator < 2 ^ (leadingExponent numerator denominator + 1) := by
  obtain ⟨low, high⟩ := log2_ratio_lt positive denominatorPositive
  have some : (0 : ℚ) < denominator := by exact_mod_cast denominatorPositive
  unfold leadingExponent
  generalize (numerator.log2 : Int) - denominator.log2 = guess at low high ⊢
  have test : denominator * Nat.pow 2 guess.toNat ≤ numerator * Nat.pow 2 (-guess).toNat ↔
      (2 : ℚ) ^ guess ≤ numerator / denominator := by
    rw [two_zpow_eq, div_le_div_iff₀ (by positivity) some, mul_comm]
    exact_mod_cast Iff.rfl
  dsimp only
  split
  · rename_i fits
    exact ⟨test.mp fits, high⟩
  · rename_i tooLarge
    rw [sub_add_cancel]
    exact ⟨low.le, lt_of_not_ge fun fits => tooLarge (test.mpr fits)⟩

/-! ## The digits -/

def digits (numerator denominator : Nat) : Nat :=
  let exponent := lastExponent numerator denominator
  nearest (numerator * Nat.pow 2 (-exponent).toNat) (denominator * Nat.pow 2 exponent.toNat)

theorem scaled_eq (numerator denominator : Nat) (exponent : Int) :
    ((numerator * Nat.pow 2 (-exponent).toNat : Nat) : ℚ) /
      (denominator * Nat.pow 2 exponent.toNat : Nat) = numerator / denominator / 2 ^ exponent := by
  rw [two_zpow_eq]
  change ((numerator * 2 ^ (-exponent).toNat : Nat) : ℚ) /
    (denominator * 2 ^ exponent.toNat : Nat) = _
  push_cast
  field_simp

theorem digits_value_le (numerator : Nat) (denominatorPositive : 0 < denominator) :
    (digits numerator denominator : ℚ) ≤
      numerator / denominator / 2 ^ lastExponent numerator denominator + 1 / 2 := by
  have some := Nat.mul_pos denominatorPositive
    (Nat.two_pow_pos (lastExponent numerator denominator).toNat)
  rw [← scaled_eq]
  exact nearest_le _ some

theorem digits_le (positive : 0 < numerator) (denominatorPositive : 0 < denominator) :
    digits numerator denominator ≤ 2 ^ 53 := by
  have high := (leadingExponent_spec positive denominatorPositive).2
  have value := digits_value_le numerator denominatorPositive
  have scaled : (numerator : ℚ) / denominator / 2 ^ lastExponent numerator denominator ≤
      2 ^ 53 := by
    rw [div_le_iff₀ (by positivity)]
    calc (numerator : ℚ) / denominator ≤ 2 ^ (leadingExponent numerator denominator + 1) := high.le
      _ ≤ 2 ^ (53 + lastExponent numerator denominator) := by
          refine zpow_le_zpow_right₀ one_le_two ?_
          have last : leadingExponent numerator denominator - 52 ≤
            lastExponent numerator denominator := le_max_left _ _
          omega
      _ = 2 ^ 53 * 2 ^ lastExponent numerator denominator := by
          rw [zpow_add₀ two_ne_zero]
          rfl
  have below : (digits numerator denominator : ℚ) < (2 ^ 53 + 1 : Nat) := by
    push_cast
    linarith
  exact Nat.lt_succ_iff.mp (by exact_mod_cast below)

theorem le_nearest (numerator denominator : Nat) :
    numerator / denominator ≤ nearest numerator denominator := by
  unfold nearest
  dsimp only
  split
  · exact Nat.le_refl _
  · split
    · exact Nat.le_succ _
    · split
      · exact Nat.le_refl _
      · exact Nat.le_succ _

theorem le_digits (positive : 0 < numerator) (denominatorPositive : 0 < denominator)
    (normal : -1074 < lastExponent numerator denominator) :
    2 ^ 52 ≤ digits numerator denominator := by
  have low := (leadingExponent_spec positive denominatorPositive).1
  have exponent_eq : lastExponent numerator denominator =
      leadingExponent numerator denominator - 52 := by
    unfold lastExponent at normal ⊢
    omega
  refine le_trans ?_ (le_nearest _ _)
  have some : 0 < denominator * Nat.pow 2 (lastExponent numerator denominator).toNat :=
    Nat.mul_pos denominatorPositive (Nat.two_pow_pos _)
  rw [Nat.le_div_iff_mul_le some]
  have scaled : (2 : ℚ) ^ 52 ≤ (numerator *
      Nat.pow 2 (-lastExponent numerator denominator).toNat : Nat) /
      (denominator * Nat.pow 2 (lastExponent numerator denominator).toNat : Nat) := by
    rw [scaled_eq, le_div_iff₀ (by positivity)]
    refine le_trans (le_of_eq ?_) low
    rw [exponent_eq, ← zpow_natCast, ← zpow_add₀ two_ne_zero]
    congr 1
    push_cast
    ring
  rw [le_div_iff₀ (by exact_mod_cast some)] at scaled
  exact_mod_cast scaled

theorem value_le_widened (positive : 0 < numerator) (denominatorPositive : 0 < denominator)
    (small : (numerator : ℚ) / denominator ≤ bound) :
    (digits numerator denominator : ℚ) * 2 ^ lastExponent numerator denominator ≤
      widened bound := by
  have low := (leadingExponent_spec positive denominatorPositive).1.trans small
  have value := digits_value_le numerator denominatorPositive
  have nonneg : 0 ≤ bound := le_trans (by positivity) low
  have unit : (2 : ℚ) ^ lastExponent numerator denominator ≤ (bound + 1) / 2 ^ 52 :=
    two_zpow_last_le nonneg (by linarith)
  calc (digits numerator denominator : ℚ) * 2 ^ lastExponent numerator denominator
      ≤ (numerator / denominator / 2 ^ lastExponent numerator denominator + 1 / 2) *
          2 ^ lastExponent numerator denominator := by gcongr
    _ = numerator / denominator + 2 ^ lastExponent numerator denominator / 2 := by
        field_simp
    _ ≤ widened bound := by
        unfold widened
        have half : (0 : ℚ) ≤ 2 ^ lastExponent numerator denominator := by positivity
        linarith

/-! ## The bits -/

theorem within_unpack_word {bits : Nat} (finite : bits < 2047 * 2 ^ 52) (atLeastOne : 1 ≤ bound)
    (small : bits < 2 ^ 52 ∨
      ((2 ^ 52 + bits % 2 ^ 52 : Nat) : ℚ) * 2 ^ (((bits / 2 ^ 52 : Nat) : Int) - 1075) ≤ bound) :
    Within bound (UnpackedFloat.unpack Format.binary64 (UInt64.ofNat bits).toBitVec) := by
  have word : (UInt64.ofNat bits).toNat = bits := by
    rw [UInt64.toNat_ofNat']
    exact Nat.mod_eq_of_lt (by omega)
  have exponent := exponentField (UInt64.ofNat bits)
  have fraction := fractionField (UInt64.ofNat bits)
  rw [UInt64.toNat_and, UInt64.toNat_shiftRight, word] at exponent
  rw [UInt64.toNat_and, word] at fraction
  have exponent_eq : (@unpackExponent Format.binary64 (UInt64.ofNat bits).toBitVec).toNat =
      bits / 2 ^ 52 := by
    refine exponent.trans ((Nat.and_two_pow_sub_one_eq_mod (bits >>> 52) 11).trans ?_)
    rw [Nat.shiftRight_eq_div_pow]
    omega
  have fraction_eq : (@unpackMantissa Format.binary64 (UInt64.ofNat bits).toBitVec).toNat =
      bits % 2 ^ 52 :=
    fraction.trans (Nat.and_two_pow_sub_one_eq_mod bits 52)
  by_cases zero : @unpackExponent Format.binary64 (UInt64.ofNat bits).toBitVec = 0#_
  · exact within_unpack_of_subnormal zero atLeastOne
  · have counts : bits / 2 ^ 52 ≠ 0 := fun none =>
      zero (BitVec.eq_of_toNat_eq (exponent_eq.trans none))
    have notLargest : @unpackExponent Format.binary64 (UInt64.ofNat bits).toBitVec ≠ -1#_ := by
      intro largest
      have value : bits / 2 ^ 52 = 2047 := exponent_eq.symm.trans (by rw [largest]; rfl)
      omega
    rw [unpack_of_normal zero notLargest]
    refine .finite _ _ ?_
    rw [exponent_eq, fraction_eq]
    exact small.resolve_left (by omega)

theorem carried_value_le {exponent : Int} {digits : Nat} (least : -1074 ≤ exponent)
    (few : digits ≤ 2 ^ 53) (many : -1074 < exponent → 2 ^ 52 ≤ digits)
    (small : (digits : ℚ) * 2 ^ exponent ≤ bound) :
    let bits := (exponent + 1074).toNat * 2 ^ 52 + digits
    bits < 2 ^ 52 ∨
      ((2 ^ 52 + bits % 2 ^ 52 : Nat) : ℚ) * 2 ^ (((bits / 2 ^ 52 : Nat) : Int) - 1075) ≤
        bound := by
  intro bits
  rcases Nat.lt_or_ge digits (2 ^ 52) with below | above
  · exact .inl (by omega)
  · refine .inr ?_
    rcases Nat.lt_or_ge digits (2 ^ 53) with inside | carry
    · have digits_eq : 2 ^ 52 + bits % 2 ^ 52 = digits := by omega
      have exponent_eq : ((bits / 2 ^ 52 : Nat) : Int) - 1075 = exponent := by omega
      rw [digits_eq, exponent_eq]
      exact small
    -- The digits were rounded up to the next power of two, which carries into the exponent.
    · have digits_eq : 2 ^ 52 + bits % 2 ^ 52 = 2 ^ 52 := by omega
      have exponent_eq : ((bits / 2 ^ 52 : Nat) : Int) - 1075 = exponent + 1 := by omega
      have full : digits = 2 ^ 52 * 2 := by omega
      rw [digits_eq, exponent_eq, zpow_add_one₀ two_ne_zero]
      rw [full] at small
      push_cast at small ⊢
      linarith

theorem within_quotientBits (denominatorPositive : 0 < denominator) (atLeastOne : 1 ≤ bound)
    (small : (numerator : ℚ) / denominator ≤ bound) (fits : bound ≤ 2 ^ 100) :
    quotientBits numerator denominator < 2047 * 2 ^ 52 ∧
      Within (widened bound) (UnpackedFloat.unpack Format.binary64
        (UInt64.ofNat (quotientBits numerator denominator)).toBitVec) := by
  have nonneg : 0 ≤ bound := zero_le_one.trans atLeastOne
  have room : 1 ≤ widened bound := atLeastOne.trans (le_widened nonneg)
  rcases Nat.eq_zero_or_pos numerator with rfl | positive
  · have nothing : quotientBits 0 denominator = 0 := rfl
    rw [nothing]
    exact ⟨by decide, within_unpack_word (by decide) room (.inl (by decide))⟩
  · have bits_eq : quotientBits numerator denominator =
        (lastExponent numerator denominator + 1074).toNat * 2 ^ 52 +
          digits numerator denominator :=
      if_neg positive.ne'
    have few := digits_le positive denominatorPositive
    have value := value_le_widened positive denominatorPositive small
    have least : -1074 ≤ lastExponent numerator denominator := le_max_right _ _
    have most : lastExponent numerator denominator ≤ 100 := by
      have leading := (leadingExponent_spec positive denominatorPositive).1.trans small
      have unit : (2 : ℚ) ^ lastExponent numerator denominator ≤ (bound + 1) / 2 ^ 52 :=
        two_zpow_last_le nonneg (by linarith)
      have power : (2 : ℚ) ^ lastExponent numerator denominator ≤ 2 ^ (100 : Int) :=
        unit.trans (by norm_num at fits ⊢; linarith)
      exact (zpow_le_zpow_iff_right₀ one_lt_two).mp power
    have finite : quotientBits numerator denominator < 2047 * 2 ^ 52 := by omega
    have decoded := carried_value_le least few (le_digits positive denominatorPositive) value
    rw [← bits_eq] at decoded
    exact ⟨finite, within_unpack_word finite room decoded⟩

theorem within_quotient? {numerator denominator : Int} (nonzero : denominator ≠ 0)
    (atLeastOne : 1 ≤ bound) (small : (numerator.natAbs : ℚ) / denominator.natAbs ≤ bound)
    (fits : bound ≤ 2 ^ 100) :
    ∃ quotient, quotient? numerator denominator = some quotient ∧
      Within (widened bound) quotient.toModel.unpack := by
  have room : 1 ≤ widened bound := atLeastOne.trans (le_widened (by linarith))
  have tight : widened bound ≤ 2 ^ 200 := by
    unfold widened
    linarith
  obtain ⟨finite, within⟩ :=
    within_quotientBits (Int.natAbs_pos.mpr nonzero) atLeastOne small fits
  have magnitude := within_unpack_pack within room tight
  refine ⟨_, if_neg (Nat.not_le.mpr finite), ?_⟩
  split
  · exact within_unpack_pack magnitude.neg room tight
  · exact magnitude

end FloatSize
end Chip8
