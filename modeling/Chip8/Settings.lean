import Chip8.Bindings
import Chip8.Log.Level
import Chip8.Picture.Color

/-!
# Settings of the player

Settings come as a table of loosely typed values. They are checked in a fixed order, and the first
thing that is wrong is reported.
-/

namespace Chip8

/-- The names of the keyboard keys and the keypad keys they stand for. The keypad is laid out as

    1 2 3 C
    4 5 6 D
    7 8 9 E
    A 0 B F

on the left block of a keyboard. -/
def defaultKeyMap : Bindings String Value := [
  ("1", 0x1), ("2", 0x2), ("3", 0x3), ("4", 0xC),
  ("q", 0x4), ("w", 0x5), ("e", 0x6), ("r", 0xD),
  ("a", 0x7), ("s", 0x8), ("d", 0x9), ("f", 0xE),
  ("z", 0xA), ("x", 0x0), ("c", 0xB), ("v", 0xF)].map fun (name, key) =>
    (name, .number (.whole key))

structure Draft where
  instructionsPerFrame : Value := .number (.whole 20)
  framesPerSecond : Value := .number (.whole 60)
  scale : Value := .number (.whole 10)
  colorScheme : Value := .text "classic"
  beepFrequency : Value := .number (.real 440.0)
  volume : Value := .number (.real 0.2)
  keyMap : Bindings String Value := defaultKeyMap
  logLevel : Value := .text "INFO"

structure Settings where
  instructionsPerFrame : Number
  framesPerSecond : Number
  scale : Number
  colorScheme : String
  beepFrequency : Number
  volume : Number
  keyMap : Bindings String Number
  logLevel : String

inductive SettingsError where
  | unknownField (name : String)
  | notUsable (name : String)
  | notComparable (symbol left right : String)
  | notPositive (name shown : String)
  | palette (error : PaletteError)
  | volume (shown : String)
  | keys (entries : List (String × Value))
  | level (error : LevelError)

def SettingsError.message? : SettingsError → Option String
  | unknownField _ | notUsable _ => none
  | notComparable symbol left right =>
      some ("'" ++ symbol ++ "' not supported between instances of '" ++ left ++ "' and '" ++
        right ++ "'")
  | notPositive name shown => some (name ++ " must be positive, got " ++ shown)
  | palette error => some error.message
  | volume shown => some ("volume must be between 0 and 1, got " ++ shown)
  | keys entries =>
      some ("Key map entries outside 0x0-0xF: " ++ (Value.table entries).inspect)
  | level error => some error.message

def SettingsError.mistake : SettingsError → Mistake
  | unknownField _ | notUsable _ | notComparable .. => .wrongKind
  | notPositive .. | volume _ | keys _ => .meaningless
  | palette error => error.mistake
  | level error => error.mistake

instance : Explained SettingsError := ⟨SettingsError.mistake, SettingsError.message?⟩

namespace Draft

private def keyPair : Value → Except SettingsError (String × Value)
  | .list [.text name, key] => .ok (name, key)
  | _ => .error (.notUsable "key_map")

def setField (draft : Draft) (name : String) (value : Value) : Except SettingsError Draft :=
  match name with
  | "instructions_per_frame" => .ok { draft with instructionsPerFrame := value }
  | "fps" => .ok { draft with framesPerSecond := value }
  | "scale" => .ok { draft with scale := value }
  | "color_scheme" => .ok { draft with colorScheme := value }
  | "beep_frequency" => .ok { draft with beepFrequency := value }
  | "volume" => .ok { draft with volume := value }
  | "key_map" =>
      match value with
      | .list items => do
          let pairs ← items.mapM keyPair
          return { draft with keyMap := Bindings.ofPairs pairs }
      | _ => .error (.notUsable name)
  | "log_level" => .ok { draft with logLevel := value }
  | other => .error (.unknownField other)

def ofFields (fields : List (String × Value)) : Except SettingsError Draft :=
  fields.foldlM (fun draft (name, value) => draft.setField name value) {}

end Draft

namespace Settings

def positive (name : String) (value : Value) : Except SettingsError Number :=
  match value with
  | .number number =>
      if number.isLessThan 1 then .error (.notPositive name number.display) else .ok number
  | other => .error (.notComparable "<" other.kindName "int")

def checkVolume (value : Value) : Except SettingsError Number :=
  match value with
  | .number number =>
      if number.isAtLeast 0 && number.isAtMost 1 then .ok number
      else .error (.volume number.display)
  | other => .error (.notComparable "<=" "float" other.kindName)

def keyNumber (entry : String × Value) : Except SettingsError (String × Number) :=
  match entry.2 with
  | .number number => .ok (entry.1, number)
  | other => .error (.notComparable "<=" "int" other.kindName)

def isKey (number : Number) : Bool := number.isAtLeast 0 && number.isLessThan 16

def checkKeys (entries : Bindings String Value) :
    Except SettingsError (Bindings String Number) := do
  let numbers ← entries.mapM keyNumber
  let bad := numbers.filter fun entry => !isKey entry.2
  if bad.isEmpty then return numbers
  else throw (.keys (bad.map fun (name, number) => (name, .number number)))

def checkPalette (value : Value) : Except SettingsError String :=
  match Palette.ofSetting value with
  | .ok _ => .ok value.display
  | .error error => .error (.palette error)

def checkLevel (value : Value) : Except SettingsError String :=
  match Level.ofSetting value with
  | .ok _ => .ok value.display
  | .error error => .error (.level error)

def frequency (value : Value) : Except SettingsError Number :=
  match value with
  | .number number => .ok number
  | _ => .error (.notUsable "beep_frequency")

def check (draft : Draft) : Except SettingsError Settings := do
  let instructionsPerFrame ← positive "instructions_per_frame" draft.instructionsPerFrame
  let framesPerSecond ← positive "fps" draft.framesPerSecond
  let scale ← positive "scale" draft.scale
  let colorScheme ← checkPalette draft.colorScheme
  let volume ← checkVolume draft.volume
  let keyMap ← checkKeys draft.keyMap
  let logLevel ← checkLevel draft.logLevel
  let beepFrequency ← frequency draft.beepFrequency
  return {
    instructionsPerFrame, framesPerSecond, scale, colorScheme, beepFrequency, volume, keyMap,
    logLevel }

def ofFields (fields : List (String × Value)) : Except SettingsError Settings := do
  check (← Draft.ofFields fields)

def instructionFrequency? (settings : Settings) : Option Number :=
  settings.instructionsPerFrame.mul? settings.framesPerSecond

end Settings
end Chip8
