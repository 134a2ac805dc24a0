import Chip8.Machine.Execute

namespace Chip8.Machine

/-- The word that a program counter points at. The two bytes are read separately: the second
address wraps around at 65536, and each read stops at the end of memory. -/
def wordAt (machine : Machine) (pc : UInt16) : Word :=
  let high := machine.memory.read pc.toNat
  let low := machine.memory.read (pc + 1).toNat
  (high.toUInt16 <<< 8) ||| low.toUInt16

def fetch (machine : Machine) : Machine × Word :=
  ({ machine with pc := machine.pc + 2 }, machine.wordAt machine.pc)

def step (machine : Machine) : Machine :=
  if machine.isHalted then machine
  else
    let (fetched, word) := machine.fetch
    fetched.execute (decode word)

def run (machine : Machine) : (count : Nat) → Machine
  | 0 => machine
  | count + 1 => machine.step.run count

def runFrame (machine : Machine) (keypad : Keypad) (count : Nat) : Machine :=
  (machine.tickTimers.setKeys keypad).run count

def runFrames (machine : Machine) : (keypads : List Keypad) → (count : Nat) →
    Machine × List Screen
  | [], _ => (machine, [])
  | keypad :: rest, count =>
      let next := machine.runFrame keypad count
      let (last, screens) := next.runFrames rest count
      (last, next.screen :: screens)

def runBatch (machines : List Machine) (count : Nat) : List Machine :=
  machines.map fun machine => machine.run count

end Chip8.Machine
