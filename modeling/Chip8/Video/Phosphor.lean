import Chip8.Machine.Screen
import Chip8.Picture.Image

namespace Chip8

/-- Numbers that a glow can be computed in. -/
class Glow (Level : Type) where
  dark : Level
  full : Level
  fade : Level → Level
  add : Level → Level → Level
  shade : Level → (on off : UInt8) → UInt8

/-- Single precision; the colour component is computed in double precision. -/
instance : Glow Float32 where
  dark := 0
  full := 1
  fade level := level * Float32.ofBits 0x3F4CCCCD
  add left right :=
    let sum := left + right
    if sum < 0 then 0 else if 1 < sum then 1 else sum
  shade level on off :=
    let span := Float.ofInt (on.toNat - off.toNat : Int)
    (off.toNat.toFloat + level.toFloat * span).toUInt8

namespace Phosphor
variable {Level : Type} [Glow Level]

def ofPixel (lit : Bool) : Level := if lit then Glow.full else Glow.dark

def start : Vector Level 2048 := Vector.replicate 2048 Glow.dark

def next (glow : Vector Level 2048) (screen : Screen) : Vector Level 2048 :=
  Vector.zipWith (fun level lit => Glow.add (Glow.fade level) (ofPixel lit)) glow screen.pixels

def ofScreen (screen : Screen) : Vector Level 2048 := screen.pixels.map ofPixel

def color (palette : Palette) (level : Level) : Color where
  red := Glow.shade level palette.on.red palette.off.red
  green := Glow.shade level palette.on.green palette.off.green
  blue := Glow.shade level palette.on.blue palette.off.blue

def image (glow : Vector Level 2048) (scale : Int) (palette : Palette) : Image :=
  (Image.ofShades glow (color palette)).scaleBy scale

end Phosphor
end Chip8
