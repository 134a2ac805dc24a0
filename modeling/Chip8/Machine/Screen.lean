namespace Chip8

structure Screen where
  pixels : Vector Bool 2048
deriving DecidableEq

abbrev Position := Fin 2048

namespace Screen

def width : Nat := 64

def height : Nat := 32

def dark : Screen := ⟨Vector.replicate 2048 false⟩

/-- The place of column `x` in row `y`, both taken around the edges. -/
def position (x y : Nat) : Position := ⟨y % 32 * 64 + x % 64, by omega⟩

def isLit (screen : Screen) (place : Position) : Bool := screen.pixels[place]

def toggle (screen : Screen) (place : Position) : Screen :=
  ⟨screen.pixels.set place.val (!screen.isLit place)⟩

def toggleAll (screen : Screen) (places : List Position) : Screen := places.foldl toggle screen

def litCount (screen : Screen) : Nat := screen.pixels.toList.count true

def row (screen : Screen) (y : Fin 32) : List Bool :=
  (List.range 64).map fun x => screen.isLit (position x y)

def rowWord (screen : Screen) (y : Fin 32) : Nat :=
  (screen.row y).foldl (fun word lit => 2 * word + lit.toNat) 0

def ofRowWords (rows : List (Nat × Nat)) : Screen :=
  ⟨Vector.ofFn fun place =>
    match rows.lookup (place.val / 64) with
    | some word => word.testBit (63 - place.val % 64)
    | none => false⟩

def litPlaces (screen : Screen) : List Position := (List.finRange 2048).filter screen.isLit

end Screen

namespace Sprite

def rowPlaces (x y : Nat) (byte : UInt8) : List Position :=
  ((List.range 8).filter fun column => byte.toNat.testBit (7 - column)).map fun column =>
    Screen.position (x + column) y

def places (x : Nat) : (y : Nat) → List UInt8 → List Position
  | _, [] => []
  | y, byte :: rest => rowPlaces x y byte ++ places x (y + 1) rest

end Sprite

/-- Draw a sprite, and tell whether it switched off a lit pixel. A sprite of at most fifteen rows
toggles no pixel twice, so it is enough to look at the screen before the drawing. -/
def Screen.draw (screen : Screen) (x y : Nat) (rows : List UInt8) : Screen × Bool :=
  let places := Sprite.places x y rows
  (screen.toggleAll places, places.any screen.isLit)

end Chip8
