import Chip8.Machine.CallStack
import Chip8.Machine.Fault
import Chip8.Machine.Font
import Chip8.Machine.Keypad
import Chip8.Machine.Memory
import Chip8.Machine.Random
import Chip8.Machine.Screen

namespace Chip8

abbrev Register := Nibble

structure Machine where
  random : RandomKey
  memory : Memory
  pc : UInt16
  screen : Screen
  calls : CallStack
  delayTimer : UInt8
  soundTimer : UInt8
  keypad : Keypad
  registers : Vector UInt8 16
  index : UInt16
  fault : Option Fault
deriving DecidableEq

namespace Machine

def programStart : Nat := 0x200

def powerOn (random : RandomKey) : Machine where
  random
  memory := Memory.zero.writeAll 0 Font.bytes
  pc := 0x200
  screen := .dark
  calls := .empty
  delayTimer := 0
  soundTimer := 0
  keypad := .released
  registers := Vector.replicate 16 0
  index := 0
  fault := none

def reset (machine : Machine) : Machine := powerOn machine.random

def v (machine : Machine) (register : Register) : UInt8 := machine.registers[register]

def setV (machine : Machine) (register : Register) (value : UInt8) : Machine :=
  { machine with registers := machine.registers.set register.val value }

theorem v_setV (machine : Machine) (x register : Register) (value : UInt8) :
    (machine.setV x value).v register = if register = x then value else machine.v register := by
  simp [v, setV, Vector.getElem_set, Fin.ext_iff, eq_comm]

def flagRegister : Register := 15

def setFlag (machine : Machine) (flag : Bool) : Machine :=
  machine.setV flagRegister (if flag then 1 else 0)

def isHalted (machine : Machine) : Bool := machine.fault.isSome

/-- Why the machine has stopped, if it has. By then the program counter has passed the
instruction that stopped it. -/
def halt? (machine : Machine) : Option Halt :=
  match machine.fault with
  | none => none
  | some (.stack cause) => some (.stack cause (machine.pc - 2))
  | some (.unknown code _) => some (.unknown code)

def tickTimers (machine : Machine) : Machine :=
  { machine with
    delayTimer := if machine.delayTimer = 0 then 0 else machine.delayTimer - 1
    soundTimer := if machine.soundTimer = 0 then 0 else machine.soundTimer - 1 }

def setKeys (machine : Machine) (keypad : Keypad) : Machine := { machine with keypad }

def setKey (machine : Machine) (index : Int) (held : Bool) : Machine :=
  { machine with keypad := machine.keypad.setAt index held }

def setSelected (machine : Machine) (selection : KeySelection) (held : Bool) : Machine :=
  { machine with keypad := machine.keypad.setSelected selection held }

end Machine
end Chip8
