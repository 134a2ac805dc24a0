import Chip8.Machine.Screen
import Chip8.Picture.Color

namespace Chip8

structure Image where
  rows : List (List Color)
deriving DecidableEq

namespace Image

def height (image : Image) : Nat := image.rows.length

def width (image : Image) : Nat := (image.rows.headD []).length

def pixels (image : Image) : List Color := image.rows.flatten

def repeatEach {Item : Type} (count : Nat) (items : List Item) : List Item :=
  items.flatMap (List.replicate count)

def enlarge (image : Image) (factor : Nat) : Image :=
  ⟨repeatEach factor (image.rows.map (repeatEach factor))⟩

def scaleBy (image : Image) (scale : Int) : Image :=
  if 1 < scale then image.enlarge scale.toNat else image

def ofShades {Shade : Type} (shades : Vector Shade 2048) (color : Shade → Color) : Image :=
  ⟨(List.range 32).map fun y => (List.range 64).map fun x =>
    color shades[Screen.position x y]⟩

end Image

def Screen.render (screen : Screen) (scale : Int) (palette : Palette) : Image :=
  (Image.ofShades screen.pixels fun lit => if lit then palette.on else palette.off).scaleBy scale

end Chip8
