namespace Chip8

structure CallStack where
  slots : Vector UInt16 16
  depth : UInt16
deriving DecidableEq

namespace CallStack

def empty : CallStack := ⟨Vector.replicate 16 0, 0⟩

def isFull (stack : CallStack) : Bool := 16 ≤ stack.depth

def isEmpty (stack : CallStack) : Bool := stack.depth == 0

def slot (stack : CallStack) (index : Nat) : UInt16 := stack.slots[min index 15]

def setSlot (stack : CallStack) (index : Nat) (address : UInt16) : CallStack :=
  if inside : index < 16 then { stack with slots := stack.slots.set index address } else stack

def push (stack : CallStack) (address : UInt16) : CallStack :=
  { stack.setSlot stack.depth.toNat address with depth := stack.depth + 1 }

def pop (stack : CallStack) : CallStack × UInt16 :=
  let depth := stack.depth - 1
  ({ stack.setSlot depth.toNat 0 with depth }, stack.slot depth.toNat)

end CallStack
end Chip8
