import Chip8.Files
import Chip8.Input
import Chip8.Picture.Image
import Chip8.Picture.PixelArray
import Chip8.Room

/-!
# Rendering from unchecked arguments

The array has to be one screen and the scale a number. A colour is a number for all components, or
a list of one number for each; such colours may also be listed pixel by pixel. Components are
between 0 and 255 after their fraction is cut off.
-/

namespace Chip8

inductive RenderError where
  | reshape (error : ReshapeError)
  | severalScreens
  | component (value : Int)
  | componentTooLarge
  | notANumber
  | infinite
  | notNumeral (shown : String)
  | componentKind (kind : String)
  | ragged (sizes : List Nat)
  | colorShape (shape : List Nat) (pixels : Nat)
  | scaleKind (kind : String)
  | scaleTooLarge
  | imageTooLarge (error : RoomError)
  | palette (error : PaletteError)
deriving DecidableEq

namespace RenderError

def message? : RenderError → Option String
  | reshape error => some error.message
  | severalScreens => some "too many values to unpack (expected 2)"
  | component value => some ("Python integer " ++ toString value ++ " out of bounds for uint8")
  | componentTooLarge => some "Python int too large to convert to C long"
  | notANumber => some "cannot convert float NaN to integer"
  | infinite => some "cannot convert float infinity to integer"
  | notNumeral shown => some ("invalid literal for int() with base 10: " ++ shown)
  | componentKind kind =>
      some ("int() argument must be a string, a bytes-like object or a real number, not '" ++
        kind ++ "'")
  | ragged sizes => some (raggedText sizes)
  | colorShape shape pixels =>
      some ("shape mismatch: value array of shape " ++ shapeText "," shape ++
        " could not be broadcast to indexing result of shape " ++ shapeText "," [pixels, 3])
  | scaleKind kind =>
      some ("'>' not supported between instances of '" ++ kind ++ "' and 'int'")
  | scaleTooLarge | imageTooLarge _ => none
  | palette error => some error.message

def mistake : RenderError → Mistake
  | component _ | componentTooLarge | infinite | scaleTooLarge => .outOfRange
  | componentKind _ | scaleKind _ => .wrongKind
  | imageTooLarge error => error.mistake
  | palette error => error.mistake
  | _ => .meaningless

instance : Explained RenderError := ⟨mistake, message?⟩

end RenderError

namespace Picture

def byte (whole : Int) : Except RenderError UInt8 :=
  if !Input.isInt64 whole then .error .componentTooLarge
  else if 0 ≤ whole ∧ whole ≤ 255 then .ok (UInt8.ofNat whole.toNat)
  else .error (.component whole)

def component (value : Value) : Except RenderError UInt8 :=
  match value with
  | .number number =>
      match number.truncate? with
      | some whole => byte whole
      | none => .error (if number.toFloat.isNaN then .notANumber else .infinite)
  | .text text => numeral (Text.integer? text)
  | .bytes bytes => numeral (Text.integerOfBytes? bytes)
  | .brokenText _ => numeral none
  | .other ⟨_, _, _, some whole, _, _⟩ => byte whole
  | other => .error (.componentKind other.kindName)
where
  numeral : Option Int → Except RenderError UInt8
    | some whole => byte whole
    | none => .error (.notNumeral value.inspect)

inductive Tint where
  | plain (color : Color)
  | each (colors : List Color)

def Tint.at (tint : Tint) (index : Nat) : Color :=
  match tint with
  | plain color => color
  | each colors => colors.getD index ⟨0, 0, 0⟩

/-- The sizes of an array that is put in place of another one with `depth` axes: axes in front of
those have to go, which takes nothing away if they have one entry each. -/
def lastSizes (depth : Nat) (shape : List Nat) : Option (List Nat) :=
  let rest := shape.drop (shape.length - depth)
  if pixelCount rest = pixelCount shape then some rest else none

def colorsOf (width : Nat) : List UInt8 → List Color
  | red :: green :: blue :: rest =>
      if width = 3 then ⟨red, green, blue⟩ :: colorsOf width rest
      else ⟨red, red, red⟩ :: colorsOf width (green :: blue :: rest)
  | first :: rest => ⟨first, first, first⟩ :: colorsOf width rest
  | [] => []
termination_by components => components.length

def tintOf (shape : List Nat) (components : List UInt8) (pixels : Nat) : Option Tint := do
  let sizes ← lastSizes 2 shape
  let width := sizes.getLastD 1
  let rows := sizes.dropLast.getLastD 1
  if (width = 1 ∨ width = 3) ∧ (rows = 1 ∨ rows = pixels) then
    if rows = 1 then return .plain ((colorsOf width components).headD ⟨0, 0, 0⟩)
    else return .each (colorsOf width components)
  else none

def tint (value : Value) (pixels : Nat) : Except RenderError Tint := do
  let outline := value.outline
  if !outline.regular then throw (.ragged outline.sizes)
  let components ← value.leaves.mapM component
  match tintOf outline.sizes components pixels with
  | some tint => return tint
  | none => throw (.colorShape outline.sizes pixels)

def checkFactor (room : Room) (factor : Int) : Except RenderError Int :=
  if !Input.isInt64 factor then .error .scaleTooLarge
  else
    match room.check (6144 * factor), room.check (6144 * factor * factor) with
    | .error error, _ | .ok _, .error error => .error (.imageTooLarge error)
    | .ok _, .ok _ => .ok factor

def factor (room : Room) (scale : Value) : Except RenderError Int :=
  match scale with
  | .number number =>
      if number.isAtMost 1 || number.toFloat.isNaN then .ok 1
      else
        match number.truncate? with
        | some whole => checkFactor room whole
        | none => .error .scaleTooLarge
  | other => .error (.scaleKind other.kindName)

def screenOf (pixels : PixelArray) : Except RenderError Screen := do
  match pixels.toGrid with
  | .error error => throw (.reshape error)
  | .ok grid => if grid.shape.length = 2 then return grid.screenFrom 0 else throw .severalScreens

def paint (lit dark : Tint) (on off : Nat) : List Bool → List Color
  | [] => []
  | true :: rest => lit.at on :: paint lit dark (on + 1) off rest
  | false :: rest => dark.at off :: paint lit dark on (off + 1) rest

def rowsOf (width : Nat) : (height : Nat) → List Color → List (List Color)
  | 0, _ => []
  | height + 1, pixels => pixels.take width :: rowsOf width height (pixels.drop width)

def imageOf (screen : Screen) (factor : Int) (lit dark : Tint) : Image :=
  match lit, dark with
  | .plain on, .plain off => screen.render factor ⟨on, off⟩
  | _, _ => (Image.mk (rowsOf 64 32 (paint lit dark 0 0 screen.pixels.toList))).scaleBy factor

def render (room : Room) (pixels : PixelArray) (scale on off : Value) :
    Except RenderError Image := do
  let screen ← screenOf pixels
  let lit ← tint on screen.litCount
  let dark ← tint off (2048 - screen.litCount)
  return imageOf screen (← factor room scale) lit dark

inductive Format where
  | png
  | bmp
deriving DecidableEq

def Format.name : Format → String
  | png => "PNG"
  | bmp => "BMP"

def Format.ofName? (name : String) : Option Format :=
  let base := (name.toList.reverse.takeWhile (· != '/')).reverse
  let rest := base.dropWhile (· == '.')
  let extension := (rest.reverse.takeWhile (· != '.')).reverse
  if !rest.contains '.' then none
  else
    match (String.ofList extension).toLower with
    | "png" | "apng" => some .png
    | "bmp" => some .bmp
    | _ => none

inductive SaveError where
  | render (error : RenderError)
  | unknownFormat
  | file (error : FileError)

instance : Explained SaveError where
  mistake
    | .render error => error.mistake
    | .unknownFormat => .meaningless
    | .file error => error.mistake
  message?
    | .render error => error.message?
    | .unknownFormat | .file _ => none

def save (room : Room) (pixels : PixelArray) (name : String) (scale palette : Value) :
    Except SaveError (Format × Image) := do
  match Palette.ofSetting palette with
  | .error error => throw (.render (.palette error))
  | .ok palette =>
      match screenOf pixels with
      | .error error => throw (.render error)
      | .ok screen =>
          match factor room scale with
          | .error error => throw (.render error)
          | .ok factor =>
              match Format.ofName? name, Folder.checkNew [] name with
              | none, _ => throw .unknownFormat
              | some _, .error error => throw (.file error)
              | some format, .ok _ => return (format, screen.render factor palette)

end Picture
end Chip8
