namespace Chip8.Decimal

/-- The number `significand * 2 ^ exponent`. -/
structure Magnitude where
  significand : Nat
  exponent : Int
deriving DecidableEq

inductive Binary where
  | finite (negative : Bool) (magnitude : Magnitude)
  | infinite (negative : Bool)
  | notANumber
deriving DecidableEq

namespace Magnitude

def numerator (magnitude : Magnitude) : Nat :=
  magnitude.significand * Nat.pow 2 magnitude.exponent.toNat

def denominator (magnitude : Magnitude) : Nat := Nat.pow 2 (-magnitude.exponent).toNat

def floor (magnitude : Magnitude) : Nat := magnitude.numerator / magnitude.denominator

theorem denominator_pos (magnitude : Magnitude) : 0 < magnitude.denominator :=
  Nat.two_pow_pos _

end Magnitude

namespace Binary

def ofBits (bits : UInt64) : Binary :=
  let negative := bits >>> 63 == 1
  let exponent := ((bits >>> 52) &&& 0x7FF).toNat
  let fraction := (bits &&& 0xFFFFFFFFFFFFF).toNat
  if exponent = 0x7FF then if fraction = 0 then infinite negative else notANumber
  else if exponent = 0 then finite negative ⟨fraction, -1074⟩
  else finite negative ⟨Nat.pow 2 52 + fraction, exponent - 1075⟩

def ofFloat (value : Float) : Binary := ofBits value.toBits

def truncate? : Binary → Option Int
  | finite negative magnitude =>
      some (if negative then -(magnitude.floor : Int) else magnitude.floor)
  | infinite _ => none
  | notANumber => none

end Binary
end Chip8.Decimal
