/-! # Rounding quotients to the nearest integer, a half to the even neighbour -/

namespace Chip8.Decimal

/-- The integer nearest to `numerator / denominator`; of two, the even one. -/
def nearest (numerator denominator : Nat) : Nat :=
  let quotient := numerator / denominator
  let rest := 2 * (numerator % denominator)
  if rest < denominator then quotient
  else if denominator < rest then quotient + 1
  else if quotient % 2 = 0 then quotient else quotient + 1

theorem nearest_within_half (numerator denominator : Nat) (positive : 0 < denominator) :
    2 * (nearest numerator denominator * denominator) ≤ 2 * numerator + denominator ∧
      2 * numerator ≤ 2 * (nearest numerator denominator * denominator) + denominator := by
  have whole := Nat.div_add_mod numerator denominator
  have small := Nat.mod_lt numerator positive
  unfold nearest
  generalize numerator / denominator = quotient at *
  generalize numerator % denominator = rest at *
  have below : quotient * denominator = denominator * quotient := Nat.mul_comm ..
  have above : (quotient + 1) * denominator = denominator * quotient + denominator := by
    rw [Nat.add_mul, Nat.one_mul, Nat.mul_comm]
  generalize denominator * quotient = product at *
  dsimp only
  split
  · omega
  · split
    · omega
    · split <;> omega

end Chip8.Decimal
