import Chip8.Machine.Screen
import Chip8.Mistake
import Chip8.Nested

namespace Chip8

def pixelCount : (shape : List Nat) → Nat
  | [] => 1
  | size :: rest => size * pixelCount rest

structure PixelArray where
  shape : List Nat
  lit : Array Bool
  size_eq : lit.size = pixelCount shape

structure ReshapeError where
  size : Nat
  shape : List Nat
deriving DecidableEq

def ReshapeError.message (error : ReshapeError) : String :=
  "cannot reshape array of size " ++ toString error.size ++ " into shape " ++
    shapeText "," error.shape

instance : Explained ReshapeError := ⟨fun _ => .meaningless, fun error => some error.message⟩

namespace PixelArray

def dark (shape : List Nat) : PixelArray :=
  ⟨shape, Array.replicate (pixelCount shape) false, by simp⟩

def ofScreen (screen : Screen) : PixelArray := ⟨[2048], screen.pixels.toArray, by simp [pixelCount]⟩

def ofScreens (screens : List Screen) : PixelArray where
  shape := [screens.length, 2048]
  lit := (screens.flatMap fun screen => screen.pixels.toList).toArray
  size_eq := by
    simp only [List.size_toArray, List.length_flatMap, Vector.length_toList, List.map_const',
      List.sum_replicate_nat, pixelCount, Nat.mul_one]

def reshape (pixels : PixelArray) (shape : List Nat) : Except ReshapeError PixelArray :=
  if fits : pixels.lit.size = pixelCount shape then .ok ⟨shape, pixels.lit, fits⟩
  else .error ⟨pixels.lit.size, shape⟩

def toGrid (pixels : PixelArray) : Except ReshapeError PixelArray :=
  pixels.reshape (pixels.shape.dropLast ++ [Screen.height, Screen.width])

def indices : (shape : List Nat) → (place : Nat) → List Nat
  | [], _ => []
  | _ :: rest, place => place / pixelCount rest :: indices rest (place % pixelCount rest)

def litIndices (pixels : PixelArray) : List (List Nat) :=
  ((List.range pixels.lit.size).filter fun place => pixels.lit.getD place false).map
    (indices pixels.shape)

def screenFrom (pixels : PixelArray) (start : Nat) : Screen :=
  ⟨Vector.ofFn fun place => pixels.lit.getD (start + place.val) false⟩

end PixelArray
end Chip8
