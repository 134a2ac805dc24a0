import Chip8.Instruction.Basic

namespace Chip8

abbrev Word := UInt16

namespace Word

def x (word : Word) : Register := Nibble.low (word.toNat / 256)

def y (word : Word) : Register := Nibble.low (word.toNat / 16)

def n (word : Word) : Nat := word.toNat % 16

def nn (word : Word) : UInt8 := word.toUInt8

def nnn (word : Word) : UInt16 := word &&& 0x0FFF

end Word

/-- A word fits when its bits under `mask` are `bits`. -/
structure Pattern where
  mask : UInt16
  bits : UInt16
  build : Word → Instruction

def Pattern.fits (pattern : Pattern) (word : Word) : Bool := word &&& pattern.mask == pattern.bits

def patterns : List Pattern := [
  ⟨0xFFFF, 0x00E0, fun _ => .clearScreen⟩,
  ⟨0xFFFF, 0x00EE, fun _ => .leave⟩,
  ⟨0xF000, 0x1000, fun word => .jump word.nnn⟩,
  ⟨0xF000, 0x2000, fun word => .call word.nnn⟩,
  ⟨0xF000, 0x3000, fun word => .skip (.equals word.x word.nn)⟩,
  ⟨0xF000, 0x4000, fun word => .skip (.differs word.x word.nn)⟩,
  ⟨0xF00F, 0x5000, fun word => .skip (.same word.x word.y)⟩,
  ⟨0xF000, 0x6000, fun word => .set word.x word.nn⟩,
  ⟨0xF000, 0x7000, fun word => .addValue word.x word.nn⟩,
  ⟨0xF00F, 0x8000, fun word => .arithmetic .copy word.x word.y⟩,
  ⟨0xF00F, 0x8001, fun word => .arithmetic .or word.x word.y⟩,
  ⟨0xF00F, 0x8002, fun word => .arithmetic .and word.x word.y⟩,
  ⟨0xF00F, 0x8003, fun word => .arithmetic .xor word.x word.y⟩,
  ⟨0xF00F, 0x8004, fun word => .arithmetic .add word.x word.y⟩,
  ⟨0xF00F, 0x8005, fun word => .arithmetic .subtract word.x word.y⟩,
  ⟨0xF00F, 0x8006, fun word => .arithmetic .shiftRight word.x word.y⟩,
  ⟨0xF00F, 0x8007, fun word => .arithmetic .subtractFrom word.x word.y⟩,
  ⟨0xF00F, 0x800E, fun word => .arithmetic .shiftLeft word.x word.y⟩,
  ⟨0xF00F, 0x9000, fun word => .skip (.distinct word.x word.y)⟩,
  ⟨0xF000, 0xA000, fun word => .setIndex word.nnn⟩,
  ⟨0xF000, 0xB000, fun word => .jumpOffset word.nnn⟩,
  ⟨0xF000, 0xC000, fun word => .random word.x word.nn⟩,
  ⟨0xF000, 0xD000, fun word => .draw word.x word.y word.n⟩,
  ⟨0xF0FF, 0xE09E, fun word => .skip (.held word.x)⟩,
  ⟨0xF0FF, 0xE0A1, fun word => .skip (.notHeld word.x)⟩,
  ⟨0xF0FF, 0xF007, fun word => .getDelay word.x⟩,
  ⟨0xF0FF, 0xF00A, fun word => .waitKey word.x⟩,
  ⟨0xF0FF, 0xF015, fun word => .setDelay word.x⟩,
  ⟨0xF0FF, 0xF018, fun word => .setSound word.x⟩,
  ⟨0xF0FF, 0xF01E, fun word => .addIndex word.x⟩,
  ⟨0xF0FF, 0xF029, fun word => .glyph word.x⟩,
  ⟨0xF0FF, 0xF033, fun word => .digits word.x⟩,
  ⟨0xF0FF, 0xF055, fun word => .store word.x⟩,
  ⟨0xF0FF, 0xF065, fun word => .load word.x⟩]

def decode (word : Word) : Instruction :=
  match patterns.find? (·.fits word) with
  | some pattern => pattern.build word
  | none => .noop

/-- Two patterns that differ in a bit that both fix cannot fit the same word. -/
theorem patterns_exclusive :
    patterns.Pairwise fun left right =>
      (left.bits ^^^ right.bits) &&& (left.mask &&& right.mask) ≠ 0 := by
  decide

end Chip8
