import Chip8.Decimal.Binary
import Chip8.Decimal.Rounding

namespace Chip8.Decimal

def leadingExponent (numerator denominator : Nat) : Int :=
  let guess : Int := numerator.log2 - denominator.log2
  if denominator * Nat.pow 2 guess.toNat ≤ numerator * Nat.pow 2 (-guess).toNat then guess
  else guess - 1

/-- The exponent of the last of 53 binary digits; no number has a smaller one than -1074. -/
def lastExponent (numerator denominator : Nat) : Int :=
  max (leadingExponent numerator denominator - 52) (-1074)

/-- The bits of a quotient of naturals. Rounding up to the next power of two carries into the
exponent, as it should. -/
def quotientBits (numerator denominator : Nat) : Nat :=
  if numerator = 0 then 0
  else
    let exponent := lastExponent numerator denominator
    let significand :=
      nearest (numerator * Nat.pow 2 (-exponent).toNat) (denominator * Nat.pow 2 exponent.toNat)
    (exponent + 1074).toNat * Nat.pow 2 52 + significand

def infinityBits : Nat := 0x7FF0000000000000

def quotient? (numerator denominator : Int) : Option Float :=
  let bits := quotientBits numerator.natAbs denominator.natAbs
  if infinityBits ≤ bits then none
  else
    let magnitude := Float.ofBits (UInt64.ofNat bits)
    some (if (decide (numerator < 0)) != (decide (denominator < 0)) then -magnitude else magnitude)

end Chip8.Decimal
