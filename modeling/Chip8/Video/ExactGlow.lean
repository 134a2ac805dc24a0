import Mathlib
import Chip8.Video.Phosphor

/-! # Exact glow: levels are fractions, and nothing is rounded before the colour is cut off -/

namespace Chip8

instance : Glow Rat where
  dark := 0
  full := 1
  fade level := level * (4 / 5)
  add left right := max 0 (min 1 (left + right))
  shade level on off :=
    let value : Rat := off.toNat + level * (on.toNat - off.toNat : Int)
    UInt8.ofNat (value.num.tdiv value.den).toNat

end Chip8
