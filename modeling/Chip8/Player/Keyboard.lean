import Chip8.Machine.Keypad
import Chip8.Settings

namespace Chip8

structure UnknownKey where
  name : String
deriving DecidableEq

instance : Explained UnknownKey := ⟨fun _ => .meaningless, fun _ => none⟩

namespace Keyboard

def escape : Nat := 27

def backspace : Nat := 8

def pause : Nat := 112

def code (code? : String → Option Nat) (name : String) : Except UnknownKey Nat :=
  match code? name with
  | some code => .ok code
  | none => .error ⟨name⟩

def named : Bindings String Nat := [
  ("backspace", backspace), ("tab", 9), ("return", 13), ("escape", escape), ("space", 32),
  ("delete", 127), ("right", 1073741903), ("left", 1073741904), ("down", 1073741905),
  ("up", 1073741906)]

def common? (name : String) : Option Nat :=
  match name.toLower.toList with
  | [character] => some character.toNat
  | characters => named.lookup (String.ofList characters)

/-- The keypad keys that a number stands for. True stands for all of them and false for none; a
number that is not whole stands for nothing that could be pressed. -/
def selection? : Number → Option KeySelection
  | .flag true => some .all
  | .flag false => some .none
  | .whole index => some (.one index)
  | .real _ => none

def keyMap (code? : String → Option Nat) (entries : Bindings String Number) :
    Except UnknownKey (Bindings Nat Number) := do
  let pairs ← entries.mapM fun (name, number) => return (← code code? name, number)
  return Bindings.ofPairs pairs

end Keyboard
end Chip8
