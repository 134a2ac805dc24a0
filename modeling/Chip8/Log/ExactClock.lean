import Mathlib
import Chip8.Log.Clock

/-! # Exact clocks: times are fractions of a second, and so are the rates over them -/

namespace Chip8

def Number.toRat : Number → Rat
  | flag value => value.toInt
  | whole value => value
  | real value =>
      match Decimal.Binary.ofFloat value with
      | .finite negative magnitude =>
          (if negative then -1 else 1) * (magnitude.numerator : Rat) / magnitude.denominator
      | _ => 0

instance : Clock Rat where
  decidableLT := inferInstance
  decidableLE := inferInstance
  rate? amount seconds := some (amount.toRat / seconds)
  fixed places seconds :=
    (if seconds < 0 then "-" else "") ++
      Decimal.withPoint places
        (Decimal.nearest (seconds.num.natAbs * Nat.pow 10 places) seconds.den)

end Chip8
