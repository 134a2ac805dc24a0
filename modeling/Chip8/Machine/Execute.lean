import Chip8.Instruction.Decode

namespace Chip8

def Arithmetic.apply (operation : Arithmetic) (left right : UInt8) : UInt8 × Option Bool :=
  match operation with
  | copy => (right, none)
  | or => (left ||| right, none)
  | and => (left &&& right, none)
  | xor => (left ^^^ right, none)
  | add => (left + right, some (255 < left.toNat + right.toNat))
  | subtract => (left - right, some (right ≤ left))
  | shiftRight => (left >>> 1, some (left &&& 1 == 1))
  | subtractFrom => (right - left, some (left ≤ right))
  | shiftLeft => (left <<< 1, some (left >>> 7 == 1))

def keyOf (value : UInt8) : Key := Nibble.low value.toNat

def Condition.holds (machine : Machine) : Condition → Bool
  | equals x value => machine.v x == value
  | differs x value => machine.v x != value
  | same x y => machine.v x == machine.v y
  | distinct x y => machine.v x != machine.v y
  | held x => machine.keypad.isHeld (keyOf (machine.v x))
  | notHeld x => !machine.keypad.isHeld (keyOf (machine.v x))

namespace Machine

def spriteRows (machine : Machine) (height : Nat) : List UInt8 :=
  (List.range height).map fun row => machine.memory.read ((machine.index.toNat + row) % Memory.size)

def drawSprite (machine : Machine) (x y : Register) (height : Nat) : Machine :=
  let (screen, collision) :=
    machine.screen.draw (machine.v x).toNat (machine.v y).toNat (machine.spriteRows height)
  { machine with screen }.setFlag collision

def registersUpTo (machine : Machine) (x : Register) : List UInt8 :=
  machine.registers.toList.take (x.val + 1)

def loadRegisters (machine : Machine) (x : Register) : Machine :=
  { machine with
    registers := Vector.ofFn fun register : Register =>
      if register ≤ x then machine.memory.read (machine.index.toNat + register.val)
      else machine.v register }

def decimalDigits (value : UInt8) : List UInt8 := [value / 100, value / 10 % 10, value % 10]

def execute (machine : Machine) : Instruction → Machine
  | .noop => machine
  | .clearScreen => { machine with screen := .dark }
  | .leave =>
      if machine.calls.isEmpty then { machine with fault := some (.stack .underflow) }
      else
        let (calls, address) := machine.calls.pop
        { machine with calls, pc := address }
  | .jump target => { machine with pc := target }
  | .call target =>
      if machine.calls.isFull then { machine with fault := some (.stack .overflow) }
      else { machine with calls := machine.calls.push machine.pc, pc := target }
  | .skip condition =>
      if condition.holds machine then { machine with pc := machine.pc + 2 } else machine
  | .set x value => machine.setV x value
  | .addValue x value => machine.setV x (machine.v x + value)
  | .arithmetic operation x y =>
      match operation.apply (machine.v x) (machine.v y) with
      | (result, none) => machine.setV x result
      | (result, some flag) => (machine.setV x result).setFlag flag
  | .setIndex address => { machine with index := address }
  | .jumpOffset base => { machine with pc := base + (machine.v (Nibble.low 0)).toUInt16 }
  | .random x mask =>
      { machine.setV x (machine.random.byte &&& mask) with random := machine.random.next }
  | .draw x y height => machine.drawSprite x y height
  | .getDelay x => machine.setV x machine.delayTimer
  | .waitKey x =>
      match machine.keypad.lowest? with
      | some key => machine.setV x (UInt8.ofNat key.val)
      | none => { machine with pc := machine.pc - 2 }
  | .setDelay x => { machine with delayTimer := machine.v x }
  | .setSound x => { machine with soundTimer := machine.v x }
  | .addIndex x => { machine with index := machine.index + (machine.v x).toUInt16 }
  | .glyph x => { machine with index := (machine.v x).toUInt16 * 5 }
  | .digits x =>
      { machine with
        memory := machine.memory.writeAll machine.index.toNat (decimalDigits (machine.v x)) }
  | .store x =>
      { machine with
        memory := machine.memory.writeAll machine.index.toNat (machine.registersUpTo x) }
  | .load x => machine.loadRegisters x

end Machine
end Chip8
