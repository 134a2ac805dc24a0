import Chip8.Decimal.Binary

/-!
# The fewest digits that read back

A number is written with as few significant digits as still tell it from its neighbours, and of
those with the nearest. Exponents of the leading digit from -4 to 15 are written positionally, all
others with a signed exponent of at least two digits.
-/

namespace Chip8.Decimal

/-- The number `digits * 10 ^ exponent`. -/
structure Scaled where
  digits : Nat
  exponent : Int
deriving DecidableEq

def Scaled.compareWith (scaled : Scaled) (significand : Nat) (power : Int) : Ordering :=
  compare (scaled.digits * Nat.pow 10 scaled.exponent.toNat * Nat.pow 2 (-power).toNat)
    (significand * Nat.pow 2 power.toNat * Nat.pow 10 (-scaled.exponent).toNat)

namespace Magnitude

def narrowBelow (magnitude : Magnitude) : Bool :=
  magnitude.significand == Nat.pow 2 52 && -1074 < magnitude.exponent

/-- Whether a decimal lies among the numbers that round to this magnitude. The ends of that
interval belong to it when the significand is even. -/
def readsBack (magnitude : Magnitude) (scaled : Scaled) : Bool :=
  let lower := 4 * magnitude.significand - (if magnitude.narrowBelow then 1 else 2)
  let upper := 4 * magnitude.significand + 2
  let closed := magnitude.significand % 2 == 0
  let below := scaled.compareWith lower (magnitude.exponent - 2)
  let above := scaled.compareWith upper (magnitude.exponent - 2)
  (below == .gt || (closed && below == .eq)) && (above == .lt || (closed && above == .eq))

def scale (magnitude : Magnitude) : Int :=
  let bits : Int := magnitude.significand.log2 + magnitude.exponent
  let guess : Int := Int.fdiv (bits * 30103) 100000
  let candidates := [guess - 1, guess, guess + 1, guess + 2]
  (candidates.find? fun k =>
    (Scaled.mk 1 k).compareWith magnitude.significand magnitude.exponent == .gt).getD (guess + 2)

/-- The decimal with `count` digits that reads back: of the two neighbours on that grid, the
nearer one, and of two equally near the even one. -/
def withDigits? (magnitude : Magnitude) (scale : Int) (count : Nat) : Option Scaled :=
  let exponent := scale - count
  let grid := Nat.pow 10 exponent.toNat * magnitude.denominator
  let digits := magnitude.numerator * Nat.pow 10 (-exponent).toNat / grid
  let low : Scaled := ⟨digits, exponent⟩
  let high : Scaled := ⟨digits + 1, exponent⟩
  match magnitude.readsBack low, magnitude.readsBack high with
  | false, false => none
  | true, false => some low
  | false, true => some high
  | true, true =>
      match (Scaled.mk (2 * digits + 1) exponent).compareWith
          (2 * magnitude.significand) magnitude.exponent with
      | .gt => some low
      | .lt => some high
      | .eq => some (if digits % 2 = 0 then low else high)

def shortest (magnitude : Magnitude) : Scaled :=
  let scale := magnitude.scale
  ((List.range' 1 17).findSome? (magnitude.withDigits? scale)).getD
    ⟨magnitude.numerator * Nat.pow 5 (-magnitude.exponent).toNat, min magnitude.exponent 0⟩

end Magnitude

def Scaled.strip : (fuel : Nat) → Scaled → Scaled
  | 0, scaled => scaled
  | fuel + 1, scaled =>
      if scaled.digits ≠ 0 ∧ scaled.digits % 10 = 0 then
        strip fuel ⟨scaled.digits / 10, scaled.exponent + 1⟩
      else scaled

private def zeros (count : Nat) : String := String.ofList (List.replicate count '0')

private def exponentText (exponent : Int) : String :=
  let digits := toString exponent.natAbs
  (if exponent < 0 then "-" else "+") ++ zeros (2 - digits.length) ++ digits

def Scaled.layout (scaled : Scaled) : String :=
  let digits := (toString scaled.digits).toList
  let leading : Int := scaled.exponent + digits.length - 1
  if leading < -4 ∨ 15 < leading then
    let fraction := digits.drop 1
    String.ofList (digits.take 1) ++
      (if fraction.isEmpty then "" else "." ++ String.ofList fraction) ++ "e" ++
      exponentText leading
  else if 0 ≤ scaled.exponent then
    String.ofList digits ++ zeros scaled.exponent.toNat ++ ".0"
  else if 0 ≤ leading then
    let whole := leading.toNat + 1
    String.ofList (digits.take whole) ++ "." ++ String.ofList (digits.drop whole)
  else "0." ++ zeros (-leading - 1).toNat ++ String.ofList digits

def Binary.shortest : Binary → String
  | finite negative magnitude =>
      let text :=
        if magnitude.significand = 0 then "0.0" else (magnitude.shortest.strip 400).layout
      (if negative then "-" else "") ++ text
  | infinite negative => if negative then "-inf" else "inf"
  | notANumber => "nan"

def shortest (value : Float) : String := (Binary.ofFloat value).shortest

end Chip8.Decimal
