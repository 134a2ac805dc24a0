/-! # Nibbles: four bits, which number the registers and the keys -/

namespace Chip8

abbrev Nibble := Fin 16

def Nibble.low (value : Nat) : Nibble := ⟨value % 16, Nat.mod_lt _ (by decide)⟩

end Chip8
