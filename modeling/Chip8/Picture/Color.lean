import Chip8.Mistake
import Chip8.Value

/-! # Colours and the palettes that have names -/

namespace Chip8

structure Color where
  red : UInt8
  green : UInt8
  blue : UInt8
deriving DecidableEq

structure Palette where
  on : Color
  off : Color
deriving DecidableEq

namespace Palette

def all : List (String × Palette) := [
  ("chippy", ⟨⟨179, 102, 184⟩, ⟨45, 25, 61⟩⟩),
  ("classic", ⟨⟨0, 255, 0⟩, ⟨0, 0, 0⟩⟩),
  ("amber", ⟨⟨255, 176, 0⟩, ⟨0, 0, 0⟩⟩),
  ("white", ⟨⟨255, 255, 255⟩, ⟨0, 0, 0⟩⟩),
  ("blue", ⟨⟨0, 255, 255⟩, ⟨0, 0, 64⟩⟩),
  ("retro", ⟨⟨255, 255, 0⟩, ⟨64, 0, 64⟩⟩)]

def named? (name : String) : Option Palette := all.lookup name

end Palette

inductive PaletteError where
  | unknown (given : String)
  | notName (kind : String)
deriving DecidableEq

def PaletteError.message : PaletteError → String
  | unknown given =>
      "Unknown color scheme '" ++ given ++ "'. Available: " ++
        Text.quotedList (Palette.all.map Prod.fst)
  | notName kind => "unhashable type: '" ++ kind ++ "'"

def PaletteError.mistake : PaletteError → Mistake
  | unknown _ => .meaningless
  | notName _ => .wrongKind

instance : Explained PaletteError := ⟨PaletteError.mistake, fun error => some error.message⟩

/-- The palette that a setting names. A single value is taken for an unknown name, but a list or a
table, and some other things, cannot be looked up at all. -/
def Palette.ofSetting (setting : Value) : Except PaletteError Palette :=
  match setting with
  | .text name =>
      match named? name with
      | some palette => .ok palette
      | none => .error (.unknown name)
  | .list _ | .table _ => .error (.notName setting.kindName)
  | .other thing =>
      if thing.isName then .error (.unknown thing.display) else .error (.notName thing.kindName)
  | _ => .error (.unknown setting.display)

end Chip8
