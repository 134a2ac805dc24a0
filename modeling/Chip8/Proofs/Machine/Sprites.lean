import Chip8.Proofs.Machine.Drawing
import Chip8.Proofs.Machine.Footprint

namespace Chip8

namespace Sprite

def column (left : Nat) (x : Fin 64) : Nat := ((x - left : Int) % 64).toNat

def row (top : Nat) (y : Fin 32) : Nat := ((y - top : Int) % 32).toNat

theorem eq_column_iff (left : Nat) (x : Fin 64) {place : Nat} (inside : place < 64) :
    place = column left x ↔ x % 64 = (left + place) % 64 := by
  have bound := x.isLt
  unfold column
  omega

theorem eq_row_iff (top : Nat) (y : Fin 32) {place : Nat} (inside : place < 32) :
    place = row top y ↔ y % 32 = (top + place) % 32 := by
  have bound := y.isLt
  unfold row
  omega

theorem covers_position_iff (left top : Nat) {rows : List UInt8} (short : rows.length ≤ 32)
    (x : Fin 64) (y : Fin 32) :
    Covers left top rows (Screen.position x y) ↔
      column left x < 8 ∧ ∃ inside : row top y < rows.length,
        rows[row top y].toNat.testBit (7 - column left x) := by
  constructor
  · rintro ⟨⟨line, inLines⟩, ⟨place, inPlaces⟩, lit, same⟩
    obtain ⟨columns, lines⟩ := (Screen.position_eq_iff _ _ _ _).mp same
    obtain rfl : place = column left x := (eq_column_iff left x (by omega)).mpr columns
    obtain rfl : line = row top y := (eq_row_iff top y (by omega)).mpr lines
    exact ⟨inPlaces, inLines, lit⟩
  · rintro ⟨inPlaces, inLines, lit⟩
    refine ⟨⟨row top y, inLines⟩, ⟨column left x, inPlaces⟩, lit, ?_⟩
    rw [Screen.position_eq_iff]
    exact ⟨(eq_column_iff left x (by omega)).mp rfl, (eq_row_iff top y (by omega)).mp rfl⟩

end Sprite

theorem Screen.exists_position (holds : Position → Prop) :
    (∃ place, holds place) ↔ ∃ (x : Fin 64) (y : Fin 32), holds (position x y) := by
  constructor
  · rintro ⟨place, found⟩
    have bound := place.isLt
    have same : place = position (place.val % 64) (place.val / 64) := by
      simp only [position, Fin.ext_iff]
      omega
    exact ⟨⟨place.val % 64, by omega⟩, ⟨place.val / 64, by omega⟩, same ▸ found⟩
  · rintro ⟨x, y, found⟩
    exact ⟨_, found⟩

theorem Screen.isLit_position (screen : Screen) (x : Fin 64) (y : Fin 32) :
    screen.isLit (position x y) = screen.pixels[y.val * 64 + x.val] := by
  simp [isLit, position, Nat.mod_eq_of_lt x.isLt, Nat.mod_eq_of_lt y.isLt]

theorem Word.n_lt (word : Word) : word.n < 16 := Nat.mod_lt _ (by decide)

namespace Machine

def spriteAt (machine : Machine) (word : Word) (x : Fin 64) (y : Fin 32) : Prop :=
  let column := Sprite.column (machine.v word.x).toNat x
  let row := Sprite.row (machine.v word.y).toNat y
  column < 8 ∧ row < word.n ∧
    (machine.memory.read ((machine.index.toNat + row) % Memory.size)).toNat.testBit (7 - column)

instance (machine : Machine) (word : Word) (x : Fin 64) (y : Fin 32) :
    Decidable (machine.spriteAt word x y) :=
  inferInstanceAs (Decidable (_ ∧ _ ∧ _))

theorem length_spriteRows_le (machine : Machine) (word : Word) :
    (machine.spriteRows word.n).length ≤ 32 := by
  have bound := word.n_lt
  rw [spriteRows, List.length_map, List.length_range]
  omega

theorem covers_spriteRows_iff (machine : Machine) (word : Word) (x : Fin 64) (y : Fin 32) :
    Sprite.Covers (machine.v word.x).toNat (machine.v word.y).toNat (machine.spriteRows word.n)
        (Screen.position x y) ↔
      machine.spriteAt word x y := by
  rw [Sprite.covers_position_iff _ _ (machine.length_spriteRows_le word)]
  simp [spriteAt, spriteRows]

/-- A word `DXYN` toggles the pixels at which its sprite has a set bit and leaves the others as they
are. The flag register tells whether one of them was lit, and nothing else changes. The corner of
the sprite and its rows are taken from the registers and the memory as they are before; a corner
beyond the screen, a sprite across its edges and rows beyond the end of memory all go around. -/
theorem draws_sprite (machine : Machine) {word : Word} (form : word.HasForm (.first 0xD000)) :
    let drawn := machine.execute (decode word)
    (∀ (x : Fin 64) (y : Fin 32),
      drawn.screen.pixels[y.val * 64 + x.val] =
        (machine.screen.pixels[y.val * 64 + x.val] ^^ decide (machine.spriteAt word x y))) ∧
    (drawn.v flagRegister =
      if ∃ (x : Fin 64) (y : Fin 32),
          machine.screen.pixels[y.val * 64 + x.val] ∧ machine.spriteAt word x y
        then 1 else 0) ∧
    (∀ register, register ≠ flagRegister → drawn.v register = machine.v register) ∧
    { drawn with screen := machine.screen, registers := machine.registers } = machine := by
  intro drawn
  have same : drawn = machine.drawSprite word.x word.y word.n :=
    congrArg machine.execute (decode_draw form)
  have short : word.n ≤ 32 := Nat.le_trans (Nat.le_of_lt word.n_lt) (by decide)
  rw [same]
  refine ⟨fun x y => ?_, ?_, fun register other => ?_, rfl⟩
  · rw [← Screen.isLit_position, drawSprite_isLit _ _ _ short, Screen.isLit_position]
    simp only [covers_spriteRows_iff]
  · rw [drawSprite_flag]
    simp only [Screen.exists_position, Screen.isLit_position, covers_spriteRows_iff]
  · have apart : Field.register register ≠ .register flagRegister := by simpa using other
    exact setFlag_agreesOn apart _ _

theorem draws_sprite_of_far_corner :
    let machine := { powerOn ⟨0, 0⟩ with
      memory := (Memory.zero.write 4095 0xC1).write 0 0xF0
      registers := ((Vector.replicate 16 0).set 14 254).set 15 95
      index := 4095
      screen := Screen.dark.toggle (Screen.position 1 0) }
    let drawn := machine.execute (decode 0xDEF2)
    Word.HasForm 0xDEF2 (.first 0xD000) ∧
      drawn.screen.pixels[31 * 64 + 5] = true ∧ drawn.screen.pixels[1] = false ∧
      drawn.v flagRegister = 1 ∧ drawn.v 14 = 254 := by
  intro machine drawn
  have form : Word.HasForm 0xDEF2 (.first 0xD000) := by decide
  obtain ⟨pixels, flag, others, -⟩ := draws_sprite machine form
  refine ⟨form, (pixels 5 31).trans ?_, (pixels 1 0).trans ?_, flag.trans (if_pos ⟨1, 0, ?_⟩),
    others 14 (by decide)⟩
  all_goals decide +kernel

end Machine
end Chip8
