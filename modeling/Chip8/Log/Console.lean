import Chip8.Log.Clock
import Chip8.Log.Level
import Chip8.Text.Digits

namespace Chip8

structure LogOptions where
  name : Value := .text "Chippy"
  level : Value := .text "INFO"
  colors : Value := .number (.flag true)
  timestamps : Value := .number (.flag true)
  interval : Value := .number (.real 5.0)

structure UnknownOption where
  name : String
deriving DecidableEq

instance : Explained UnknownOption where
  mistake _ := .wrongKind
  message? error :=
    some ("ConsoleLogger.__init__() got an unexpected keyword argument '" ++ error.name ++ "'")

namespace LogOptions

def setField (session : Bool) (options : LogOptions) (name : String) (value : Value) :
    Except UnknownOption LogOptions :=
  match name with
  | "name" => .ok { options with name := value }
  | "log_level" => .ok { options with level := value }
  | "use_colors" => .ok { options with colors := value }
  | "show_timestamps" => .ok { options with timestamps := value }
  | "stats_interval" =>
      if session then .ok { options with interval := value } else .error ⟨name⟩
  | _ => .error ⟨name⟩

def ofFields (session : Bool) (fields : List (String × Value)) : Except UnknownOption LogOptions :=
  fields.foldlM (fun options (name, value) => options.setField session name value) {}

def useColors (options : LogOptions) (terminal : Bool) : Value :=
  if options.colors.isTrue then .number (.flag terminal) else options.colors

end LogOptions

structure Console (Time : Type) where
  name : String
  threshold : Level
  colors : Bool
  timestamps : Bool
  start : Time

namespace Console
variable {Time : Type} [Clock Time]

def start? (options : LogOptions) (terminal : Bool) (now : Time) :
    Except LevelError (Console Time) := do
  return {
    name := options.name.display
    threshold := ← Level.ofSetting options.level
    colors := (options.useColors terminal).isTrue
    timestamps := options.timestamps.isTrue
    start := now }

def tag (console : Console Time) (level : Level) : String :=
  let plain := "[" ++ Text.padLeft 8 ' ' level.name ++ "]"
  if console.colors then level.color ++ plain ++ "\x1b[0m" else plain

def stamp (console : Console Time) (now : Time) : String :=
  if console.timestamps then
    "[" ++ Text.padLeft 8 ' ' (Clock.fixed 2 (now - console.start)) ++ "s]"
  else ""

def log (console : Console Time) (now : Time) (level : Level) (message : String) : String :=
  if level.rank < console.threshold.rank then ""
  else
    console.stamp now ++ console.tag level ++ "[" ++ console.name ++ "] " ++ message ++ "\n"

def logNamed? (console : Console Time) (now : Time) (level message : String) : Option String :=
  (Level.named? level).map fun level => console.log now level message

end Console
end Chip8
