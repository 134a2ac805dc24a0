import Chip8.Mistake
import Chip8.Text.Capitals
import Chip8.Value

/-! # Log levels, in ascending order -/

namespace Chip8

inductive Level where
  | debug
  | info
  | warning
  | error
deriving DecidableEq

namespace Level

def all : List Level := [debug, info, warning, error]

def name : Level → String
  | debug => "DEBUG"
  | info => "INFO"
  | warning => "WARNING"
  | error => "ERROR"

def rank : Level → Nat
  | debug => 0
  | info => 1
  | warning => 2
  | error => 3

def color : Level → String
  | debug => "\x1b[36m"
  | info => "\x1b[32m"
  | warning => "\x1b[33m"
  | error => "\x1b[31m"

def named? (name : String) : Option Level := all.find? fun level => level.name == name

end Level

inductive LevelError where
  | unknown (given : String)
  | notText (kind : String)
deriving DecidableEq

def LevelError.message : LevelError → String
  | unknown given =>
      "Unknown log level '" ++ given ++ "'. Available: " ++
        Text.quotedList (Level.all.map Level.name)
  | notText kind => "'" ++ kind ++ "' object has no attribute 'upper'"

def LevelError.mistake : LevelError → Mistake
  | unknown _ => .meaningless
  | notText _ => .noSuchMember

instance : Explained LevelError := ⟨LevelError.mistake, fun error => some error.message⟩

def Level.ofSetting (setting : Value) : Except LevelError Level :=
  match setting with
  | .text given =>
      match named? (Text.capitals given) with
      | some level => .ok level
      | none => .error (.unknown given)
  | .brokenText _ | .bytes _ => .error (.unknown setting.display)
  | _ => .error (.notText setting.kindName)

end Chip8
