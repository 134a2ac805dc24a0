import Chip8.Machine.Basic

namespace Chip8

inductive Arithmetic where
  | copy
  | or
  | and
  | xor
  | add
  | subtract
  | shiftRight
  | subtractFrom
  | shiftLeft
deriving DecidableEq

inductive Condition where
  | equals (x : Register) (value : UInt8)
  | differs (x : Register) (value : UInt8)
  | same (x y : Register)
  | distinct (x y : Register)
  | held (x : Register)
  | notHeld (x : Register)
deriving DecidableEq

inductive Instruction where
  | noop
  | clearScreen
  | leave
  | jump (target : UInt16)
  | call (target : UInt16)
  | skip (condition : Condition)
  | set (x : Register) (value : UInt8)
  | addValue (x : Register) (value : UInt8)
  | arithmetic (operation : Arithmetic) (x y : Register)
  | setIndex (address : UInt16)
  | jumpOffset (base : UInt16)
  | random (x : Register) (mask : UInt8)
  | draw (x y : Register) (height : Nat)
  | getDelay (x : Register)
  | waitKey (x : Register)
  | setDelay (x : Register)
  | setSound (x : Register)
  | addIndex (x : Register)
  | glyph (x : Register)
  | digits (x : Register)
  | store (x : Register)
  | load (x : Register)
deriving DecidableEq

def Arithmetic.label : Arithmetic → String
  | copy => "MOV"
  | or => "OR"
  | and => "AND"
  | xor => "XOR"
  | add => "ADD"
  | subtract => "SUB"
  | shiftRight => "SHR"
  | subtractFrom => "SUBN"
  | shiftLeft => "SHL"

def Condition.label : Condition → String
  | equals .. => "SKIP_EQ_IMM"
  | differs .. => "SKIP_NE_IMM"
  | same .. => "SKIP_EQ_REG"
  | distinct .. => "SKIP_NE_REG"
  | held .. => "SKIP_KEY_PRESSED"
  | notHeld .. => "SKIP_KEY_RELEASED"

def Instruction.label : Instruction → String
  | noop => "NOOP"
  | clearScreen => "CLEAR_SCREEN"
  | leave => "RETURN"
  | jump .. => "JUMP"
  | call .. => "CALL"
  | skip condition => condition.label
  | set .. => "SET_IMM"
  | addValue .. => "ADD_IMM"
  | arithmetic operation .. => operation.label
  | setIndex .. => "SET_INDEX"
  | jumpOffset .. => "JUMP_OFFSET"
  | random .. => "RANDOM"
  | draw .. => "DRAW"
  | getDelay .. => "GET_DELAY"
  | waitKey .. => "WAIT_KEY"
  | setDelay .. => "SET_DELAY"
  | setSound .. => "SET_SOUND"
  | addIndex .. => "ADD_INDEX"
  | glyph .. => "FONT"
  | digits .. => "BCD"
  | store .. => "STORE"
  | load .. => "LOAD"

end Chip8
