import Chip8.Proofs.Machine.Drawing
import Chip8.Proofs.Machine.Footprint
import Chip8.Proofs.Machine.History
import Chip8.Proofs.Machine.Loading

namespace Chip8

def Font.glyph (digit : Nat) : List UInt8 := (bytes.drop (digit * glyphSize)).take glyphSize

def Memory.HasFont (memory : Memory) : Prop :=
  ∀ (address : Nat) (inside : address < Font.bytes.length),
    memory.read address = Font.bytes[address]

/-- An instruction that writes memory finds the index register above the font. -/
def Moment.SparesFont : Moment → Prop
  | .executed found word =>
      word.HasFormIn [.firstByte 0xF033, .firstByte 0xF055] → 80 ≤ found.index
  | .ticked | .reset => True

instance : DecidablePred Moment.SparesFont
  | .executed .. => inferInstanceAs (Decidable (_ → _))
  | .ticked | .reset => inferInstanceAs (Decidable True)

theorem Memory.HasFont.writeAll {memory : Memory} (hasFont : memory.HasFont) {start : Nat}
    (above : Font.bytes.length ≤ start) (bytes : List UInt8) :
    (memory.writeAll start bytes).HasFont := by
  intro address inside
  have small : address < 4096 := Nat.lt_trans inside (by decide)
  rw [read_writeAll_of_lt _ _ (Nat.lt_of_lt_of_le inside above) small, hasFont address inside]

namespace Machine
variable {machine : Machine} {history : List Moment}

theorem powerOn_hasFont (random : RandomKey) : (powerOn random).memory.HasFont := by
  intro address inside
  have small : 0 + address < 4096 := by
    rw [Nat.zero_add]
    exact Nat.lt_trans inside (by decide)
  have found := Memory.zero.read_writeAll_add 0 (List.getElem?_eq_getElem inside) small
  rwa [Nat.zero_add] at found

theorem execute_memory {instruction : Instruction} (written : .memory ∈ instruction.writes)
    (machine : Machine) :
    ∃ bytes, (machine.execute instruction).memory =
      machine.memory.writeAll machine.index.toNat bytes := by
  cases instruction with
  | digits x | store x => exact ⟨_, rfl⟩
  | arithmetic operation x y =>
      cases operation <;> simp [Instruction.writes, Arithmetic.hasFlag] at written
  | _ => simp [Instruction.writes] at written

theorem execute_hasFont (hasFont : machine.memory.HasFont) {word : Word}
    (spares : (Moment.executed machine word).SparesFont) :
    (machine.execute (decode word)).memory.HasFont := by
  by_cases written : .memory ∈ (decode word).writes
  · have above : (80 : UInt16) ≤ machine.index := spares (writtenBy_of_mem_writes written)
    obtain ⟨bytes, same⟩ := execute_memory written machine
    rw [same]
    exact hasFont.writeAll (UInt16.le_iff_toNat_le.mp above) bytes
  · have same : (machine.execute (decode word)).memory = machine.memory :=
      execute_agreesOn written machine
    rwa [same]

theorem Path.hasFont {start : Machine} (fresh : start.memory.HasFont)
    (path : Path start history machine) (spared : ∀ moment ∈ history, moment.SparesFont) :
    machine.memory.HasFont := by
  -- Memory is written by instructions and by loading only, and a reset writes the font anew.
  induction path with
  | start => exact fresh
  | fetched _ _ ih | pressed _ _ ih => exact ih spared
  | executed _ word ih =>
      have found := ih fun moment member => spared moment (List.mem_append_left _ member)
      exact execute_hasFont found (spared _ (by simp))
  | loaded _ fits ih =>
      rw [load_eq fits]
      exact (ih spared).writeAll (by decide) _
  | ticked _ ih => exact ih fun moment member => spared moment (List.mem_append_left _ member)
  | reset => exact powerOn_hasFont _

theorem spriteRows_glyph (hasFont : machine.memory.HasFont) {digit : Nat} (small : digit ≤ 15)
    (there : machine.index.toNat = digit * Font.glyphSize) :
    machine.spriteRows 5 = Font.glyph digit := by
  have size : Font.bytes.length = 80 := rfl
  simp only [Font.glyphSize] at there
  apply List.ext_getElem
  · simp only [spriteRows, Font.glyph, Font.glyphSize, List.length_map, List.length_range,
      List.length_take, List.length_drop]
    omega
  · intro row inRows _
    have inside : row < 5 := by simpa [spriteRows] using inRows
    have address : (machine.index.toNat + row) % Memory.size = digit * 5 + row := by
      rw [there, Memory.size]
      omega
    have byte := hasFont (digit * 5 + row) (by omega)
    simp only [spriteRows, Font.glyph, Font.glyphSize, List.getElem_map, List.getElem_range,
      List.getElem_take, List.getElem_drop, address, byte]

theorem execute_glyph_spriteRows (hasFont : machine.memory.HasFont) {x : Register}
    (digit : machine.v x ≤ 15) :
    (machine.execute (.glyph x)).spriteRows 5 = Font.glyph (machine.v x).toNat := by
  have small : (machine.v x).toNat ≤ 15 := UInt8.le_iff_toNat_le.mp digit
  have keepsFont : (machine.execute (.glyph x)).memory.HasFont := hasFont
  refine spriteRows_glyph keepsFont small ?_
  simp only [execute, UInt16.toNat_mul, UInt8.toNat_toUInt16, Font.glyphSize]
  exact Nat.mod_eq_of_lt (by simp; omega)

/-- If every instruction of a run that writes memory finds the index register above the font, then
the font is there at every moment of the run: after each action and before each instruction. So the
words `FX29` and `DAB5` toggle the pixels of the digit in register `X`, around the edges of the
screen, and flag whether one of them was lit. -/
theorem font_survives (random : RandomKey) (actions : List Action)
    (spared : ∀ moment ∈ (powerOn random).history actions, moment.SparesFont) (state : Machine)
    (visited : (∃ done, done <+: actions ∧ state = (powerOn random).performAll done) ∨
      ∃ word, .executed state word ∈ (powerOn random).history actions) :
    state.memory.HasFont ∧
      ∀ glyphWord drawWord : Word, glyphWord.HasForm (.firstByte 0xF029) →
        drawWord.HasForm (.firstLast 0xD005) → state.v glyphWord.x ≤ 15 →
        let glyph := Font.glyph (state.v glyphWord.x).toNat
        let covers := Sprite.Covers (state.v drawWord.x).toNat (state.v drawWord.y).toNat glyph
        let drawn := (state.execute (decode glyphWord)).execute (decode drawWord)
        (∀ place, drawn.screen.isLit place = (state.screen.isLit place ^^ decide (covers place))) ∧
          drawn.v flagRegister =
            if ∃ place, state.screen.isLit place ∧ covers place then 1 else 0 := by
  have hasFont : state.memory.HasFont := by
    rcases visited with ⟨done, ⟨rest, rfl⟩, rfl⟩ | ⟨word, member⟩
    · rw [history_append] at spared
      exact (path_history _ done).hasFont (powerOn_hasFont random) fun moment member =>
        spared moment (List.mem_append_left _ member)
    · obtain ⟨before, after, split⟩ := List.append_of_mem member
      have path := (path_history _ actions).before_executed split
      rw [split] at spared
      exact path.hasFont (powerOn_hasFont random) fun moment member =>
        spared moment (List.mem_append_left _ member)
  refine ⟨hasFont, fun glyphWord drawWord glyphForm drawForm digit => ?_⟩
  have rows := execute_glyph_spriteRows hasFont digit
  have height : drawWord.n = 5 := drawForm.2
  rw [decode_glyph glyphForm, decode_draw drawForm.1, height, ← rows]
  exact ⟨fun place => drawSprite_isLit _ _ _ (by decide) place, drawSprite_flag _ _ _ 5⟩

theorem font_survives_of_dump_above :
    let actions : List Action := [.load [0xA0, 0x50, 0xF5, 0x55, 0x60, 0x0A], .run 3]
    let machine := (powerOn ⟨0, 0⟩).performAll actions
    (∀ moment ∈ (powerOn ⟨0, 0⟩).history actions, moment.SparesFont) ∧
      Word.HasForm 0xF029 (.firstByte 0xF029) ∧ Word.HasForm 0xD125 (.firstLast 0xD005) ∧
      machine.v 0 = 0x0A ∧ machine.memory.HasFont ∧
      ((machine.execute (decode 0xF029)).execute (decode 0xD125)).screen.isLit
        (Screen.position 0 0) := by
  intro actions machine
  have spared : ∀ moment ∈ (powerOn ⟨0, 0⟩).history actions, moment.SparesFont := by decide +kernel
  have digit : machine.v 0 = 0x0A := by decide +kernel
  obtain ⟨hasFont, draws⟩ :=
    font_survives ⟨0, 0⟩ actions spared machine (.inl ⟨actions, List.prefix_rfl, rfl⟩)
  have drawn := draws 0xF029 0xD125 (by decide) (by decide) (digit ▸ by decide)
  refine ⟨spared, by decide, by decide, digit, hasFont, ?_⟩
  rw [drawn.1]
  decide +kernel

end Machine
end Chip8
