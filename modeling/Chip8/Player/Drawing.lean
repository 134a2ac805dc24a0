import Chip8.Machine.Screen
import Chip8.Value

/-! # Drawing a screen in a window: a background and one square for each lit pixel -/

namespace Chip8

structure Rectangle where
  left : Int
  top : Int
  width : Int
  height : Int
deriving DecidableEq

inductive Stroke (Paint : Type) where
  | fill (paint : Paint)
  | rectangle (area : Rectangle) (paint : Paint)

def scaledWidth (scale : Number) (count : Nat) : Int :=
  ((Number.mul? (.whole count) scale).bind Number.truncate?).getD 0

theorem scaledWidth_whole (scale : Int) (count : Nat) :
    scaledWidth (.whole scale) count = count * scale := rfl

def Rectangle.ofPixel (scale : Number) (x y : Nat) : Rectangle :=
  ⟨scaledWidth scale x, scaledWidth scale y, scaledWidth scale 1, scaledWidth scale 1⟩

def Screen.strokes {Paint : Type} (screen : Screen) (scale : Number) (on off : Paint) :
    List (Stroke Paint) :=
  .fill off :: screen.litPlaces.map fun place =>
    .rectangle (.ofPixel scale (place.val % 64) (place.val / 64)) on

end Chip8
