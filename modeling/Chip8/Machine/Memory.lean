/-!
# Memory

4096 bytes. Reads past the end see the last byte and writes past the end are dropped, so every
address is accepted. `read_write` is the one law that the rest of the library needs.
-/

namespace Chip8

structure Memory where
  cells : Vector UInt8 4096
deriving DecidableEq

namespace Memory

def size : Nat := 4096

def zero : Memory := ⟨Vector.replicate 4096 0⟩

def read (memory : Memory) (address : Nat) : UInt8 :=
  memory.cells[min address 4095]

def write (memory : Memory) (address : Nat) (byte : UInt8) : Memory :=
  if inside : address < 4096 then ⟨memory.cells.set address byte⟩ else memory

def writeAll (memory : Memory) (start : Nat) : List UInt8 → Memory
  | [] => memory
  | byte :: rest => (memory.write start byte).writeAll (start + 1) rest

theorem read_write (memory : Memory) (address : Nat) (byte : UInt8) (other : Nat)
    (inside : other < 4096) :
    (memory.write address byte).read other =
      if other = address then byte else memory.read other := by
  have clamp : min other 4095 = other := by omega
  unfold write read
  split
  · simp [clamp, Vector.getElem_set, eq_comm]
  · have differ : other ≠ address := by omega
    simp [differ]

theorem ext_read {left right : Memory}
    (same : ∀ address, address < 4096 → left.read address = right.read address) : left = right := by
  obtain ⟨left⟩ := left
  obtain ⟨right⟩ := right
  congr 1
  apply Vector.ext
  intro address inside
  have at_address := same address inside
  have clamp : min address 4095 = address := by omega
  simpa [read, clamp] using at_address

end Memory
end Chip8
