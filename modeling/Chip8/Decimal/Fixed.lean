import Chip8.Decimal.Binary
import Chip8.Decimal.Rounding

namespace Chip8.Decimal

def withPoint (places units : Nat) : String :=
  if places = 0 then toString units
  else
    let fraction := toString (units % Nat.pow 10 places)
    toString (units / Nat.pow 10 places) ++ "." ++
      String.ofList (List.replicate (places - fraction.length) '0') ++ fraction

def Magnitude.units (magnitude : Magnitude) (places : Nat) : Nat :=
  nearest (magnitude.numerator * Nat.pow 10 places) magnitude.denominator

def Binary.fixed (places : Nat) : Binary → String
  | finite negative magnitude =>
      (if negative then "-" else "") ++ withPoint places (magnitude.units places)
  | infinite negative => if negative then "-inf" else "inf"
  | notANumber => "nan"

def fixed (places : Nat) (value : Float) : String := (Binary.ofFloat value).fixed places

end Chip8.Decimal
