import Chip8.Machine.Execute
import Chip8.Proofs.Instruction.Forms
import Chip8.Proofs.Machine.Loading

namespace Chip8

namespace Machine

/-! ## Windows -/

theorem length_registersUpTo (machine : Machine) (x : Register) :
    (machine.registersUpTo x).length = x + 1 := by
  have bound := x.isLt
  rw [registersUpTo, List.length_take, Vector.length_toList]
  omega

theorem getElem?_registersUpTo (machine : Machine) {x register : Register}
    (upTo : register ≤ x) :
    (machine.registersUpTo x)[register.val]? = some (machine.v register) := by
  have dumped : register.val < x.val + 1 := Nat.lt_succ_of_le upTo
  simp [registersUpTo, v, dumped]

theorem exists_register {start address : Nat} {x : Register} (first : start ≤ address)
    (last : address ≤ start + x) : ∃ register ≤ x, address = start + register := by
  have bound := x.isLt
  refine ⟨⟨address - start, by omega⟩, ?_, ?_⟩
  · rw [Fin.le_def]
    exact Nat.sub_le_iff_le_add'.mpr last
  · exact (Nat.add_sub_cancel' first).symm

/-- A dump may as well write the whole window of sixteen bytes, with what is read there for the
registers that it leaves out. Beyond the end of memory that is another byte's value, and there
nothing is written. -/
theorem writeAll_window (machine : Machine) (x : Register) :
    machine.memory.writeAll machine.index.toNat ((List.finRange 16).map fun register =>
        if register ≤ x then machine.v register
        else machine.memory.read (machine.index.toNat + register)) =
      (machine.execute (.store x)).memory := by
  have dumpedEnd := x.isLt
  have length := machine.length_registersUpTo x
  have stored : (machine.execute (.store x)).memory =
      machine.memory.writeAll machine.index.toNat (machine.registersUpTo x) := rfl
  rw [stored]
  apply Memory.ext_read
  intro address inside
  by_cases outside : address < machine.index.toNat ∨ machine.index.toNat + 16 ≤ address
  · rw [Memory.read_writeAll_of_outside _ (by simpa using outside) inside,
      Memory.read_writeAll_of_outside _ (by omega) inside]
  · obtain ⟨register, -, rfl⟩ : ∃ register ≤ (15 : Register),
        address = machine.index.toNat + register :=
      exists_register (by omega) (by change address ≤ machine.index.toNat + 15; omega)
    rw [machine.memory.read_writeAll_add _ (by simp; rfl) inside]
    split
    · rename_i upTo
      exact (machine.memory.read_writeAll_add _ (machine.getElem?_registersUpTo upTo) inside).symm
    · rename_i above
      have after : x.val < register.val := Fin.not_le.mp above
      rw [Memory.read_writeAll_of_outside _ (.inr (by omega)) inside]

theorem store_read_window (machine : Machine) (x register : Register)
    (inside : machine.index.toNat + register < 4096) :
    (machine.execute (.store x)).memory.read (machine.index.toNat + register) =
      if register ≤ x then machine.v register
      else machine.memory.read (machine.index.toNat + register) := by
  rw [← writeAll_window]
  exact machine.memory.read_writeAll_add _ (by simp) inside

theorem store_read_register (machine : Machine) {x register : Register} (upTo : register ≤ x)
    (inside : machine.index.toNat + register < 4096) :
    (machine.execute (.store x)).memory.read (machine.index.toNat + register) =
      machine.v register := by
  rw [machine.store_read_window x register inside, if_pos upTo]

theorem store_read_outside (machine : Machine) {x : Register} {address : Nat}
    (outside : address < machine.index.toNat ∨ machine.index.toNat + x < address)
    (inside : address < 4096) :
    (machine.execute (.store x)).memory.read address = machine.memory.read address := by
  by_cases window : address < machine.index.toNat ∨ machine.index.toNat + 16 ≤ address
  · rw [← writeAll_window, Memory.read_writeAll_of_outside _ (by simpa using window) inside]
  · obtain ⟨register, -, rfl⟩ : ∃ register ≤ (15 : Register),
        address = machine.index.toNat + register :=
      exists_register (by omega) (by change address ≤ machine.index.toNat + 15; omega)
    have above : ¬ register ≤ x := Fin.not_le.mpr (Fin.lt_def.mpr (by omega))
    rw [machine.store_read_window x register inside, if_neg above]

theorem decimalDigits_spec (value : UInt8) :
    ∃ hundreds tens ones : UInt8, decimalDigits value = [hundreds, tens, ones] ∧
      hundreds ≤ 9 ∧ tens ≤ 9 ∧ ones ≤ 9 ∧
      100 * hundreds.toNat + 10 * tens.toNat + ones.toNat = value.toNat := by
  have bound := value.toNat_lt
  refine ⟨_, _, _, rfl, ?_⟩
  simp only [UInt8.le_iff_toNat_le, UInt8.toNat_div, UInt8.toNat_mod, UInt8.reduceToNat]
  omega

/-- A word `FX55` writes the registers up to `X`, and a word `FX33` the three decimal digits of
register `X`, to consecutive addresses from the index register on. Of these addresses those below
4096 get their byte and the others none; every other byte of memory stays as it is, and so does the
rest of the machine. -/
theorem writes_window (machine : Machine) (word : Word) :
    let start := machine.index.toNat
    let after := machine.execute (decode word)
    (word.HasForm (.firstByte 0xF055) →
      (∀ register ≤ word.x, ∀ inside : start + register < 4096,
        after.memory.cells[start + register] = machine.v register) ∧
      (∀ (address : Nat) (inside : address < 4096),
        address < start ∨ start + word.x < address →
          after.memory.cells[address] = machine.memory.cells[address]) ∧
      { after with memory := machine.memory } = machine) ∧
    (word.HasForm (.firstByte 0xF033) →
      (∃ hundreds tens ones : UInt8, hundreds ≤ 9 ∧ tens ≤ 9 ∧ ones ≤ 9 ∧
        100 * hundreds.toNat + 10 * tens.toNat + ones.toNat = (machine.v word.x).toNat ∧
        (∀ inside : start < 4096, after.memory.cells[start] = hundreds) ∧
        (∀ inside : start + 1 < 4096, after.memory.cells[start + 1] = tens) ∧
        ∀ inside : start + 2 < 4096, after.memory.cells[start + 2] = ones) ∧
      (∀ (address : Nat) (inside : address < 4096),
        address < start ∨ start + 2 < address →
          after.memory.cells[address] = machine.memory.cells[address]) ∧
      { after with memory := machine.memory } = machine) := by
  intro start after
  refine ⟨fun form => ?_, fun form => ?_⟩
  · have same : after = machine.execute (.store word.x) :=
      congrArg machine.execute (decode_store form)
    rw [same]
    refine ⟨fun register upTo inside => ?_, fun address inside outside => ?_, rfl⟩
    · rw [← Memory.read_of_lt]
      exact machine.store_read_register upTo inside
    · rw [← Memory.read_of_lt, ← Memory.read_of_lt]
      exact machine.store_read_outside outside inside
  · have same : after = machine.execute (.digits word.x) :=
      congrArg machine.execute (decode_digits form)
    obtain ⟨hundreds, tens, ones, digits, hundredsSmall, tensSmall, onesSmall, sum⟩ :=
      decimalDigits_spec (machine.v word.x)
    have memory : after.memory = machine.memory.writeAll start [hundreds, tens, ones] := by
      rw [same, execute, digits]
    have written (place : Nat) (byte : UInt8) (found : [hundreds, tens, ones][place]? = some byte)
        (inside : start + place < 4096) : after.memory.cells[start + place] = byte := by
      rw [← Memory.read_of_lt, memory]
      exact machine.memory.read_writeAll_add _ found inside
    refine ⟨⟨hundreds, tens, ones, hundredsSmall, tensSmall, onesSmall, sum,
      written 0 hundreds rfl, written 1 tens rfl, written 2 ones rfl⟩,
      fun address inside outside => ?_, ?_⟩
    · rw [← Memory.read_of_lt, ← Memory.read_of_lt, memory]
      exact machine.memory.read_writeAll_of_outside outside inside
    · rw [same]
      rfl

theorem writes_window_of_last_bytes :
    let machine := { powerOn ⟨0, 0⟩ with
      registers := Vector.ofFn fun register : Fin 16 => UInt8.ofNat (254 - register)
      index := 4094 }
    let stored := (machine.execute (decode 0xF355)).memory
    let written := (machine.execute (decode 0xF033)).memory
    Word.HasForm 0xF355 (.firstByte 0xF055) ∧ Word.HasForm 0xF033 (.firstByte 0xF033) ∧
      stored.cells[4094] = 254 ∧ stored.cells[4095] = 253 ∧ stored.cells[0] = 0xF0 ∧
      written.cells[4094] = 2 ∧ written.cells[4095] = 5 ∧ written.cells[0] = 0xF0 := by
  intro machine stored written
  have storeForm : Word.HasForm 0xF355 (.firstByte 0xF055) := by decide
  have digitsForm : Word.HasForm 0xF033 (.firstByte 0xF033) := by decide
  have font : machine.memory.cells[0] = 0xF0 := by decide +kernel
  have value : (machine.v 0).toNat = 254 := by decide
  obtain ⟨registers, kept, -⟩ := (writes_window machine 0xF355).1 storeForm
  obtain ⟨⟨hundreds, tens, ones, hundredsSmall, tensSmall, onesSmall, sum, first, second, -⟩,
    others, -⟩ := (writes_window machine 0xF033).2 digitsForm
  replace sum : 100 * hundreds.toNat + 10 * tens.toNat + ones.toNat = 254 := sum.trans value
  simp only [UInt8.le_iff_toNat_le, UInt8.reduceToNat] at hundredsSmall tensSmall onesSmall
  have two : hundreds = 2 := UInt8.toNat_inj.mp (by simp only [UInt8.reduceToNat]; omega)
  have five : tens = 5 := UInt8.toNat_inj.mp (by simp only [UInt8.reduceToNat]; omega)
  exact ⟨storeForm, digitsForm, registers 0 (by decide) (by decide),
    registers 1 (by decide) (by decide), (kept 0 (by decide) (.inl (by decide))).trans font,
    (first (by decide)).trans two, (second (by decide)).trans five,
    (others 0 (by decide) (.inl (by decide))).trans font⟩

/-! ## There and back -/

theorem loadRegisters_v (machine : Machine) (x register : Register) :
    (machine.loadRegisters x).v register =
      if register ≤ x then machine.memory.read (machine.index.toNat + register)
      else machine.v register := by
  simp [loadRegisters, v]

theorem loadRegisters_memory (machine : Machine) (x : Register) :
    (machine.loadRegisters x).memory = machine.memory := by
  simp only [loadRegisters]

theorem loadRegisters_index (machine : Machine) (x : Register) :
    (machine.loadRegisters x).index = machine.index := by
  simp only [loadRegisters]

theorem loadRegisters_others (machine : Machine) (x : Register) :
    { machine.loadRegisters x with registers := machine.registers } = machine := by
  simp only [loadRegisters]

theorem store_read_last (machine : Machine) {x : Register} (starts : machine.index.toNat ≤ 4095)
    (reaches : 4095 ≤ machine.index.toNat + x) :
    ∃ last : Register, last.val = 4095 - machine.index.toNat ∧
      (machine.execute (.store x)).memory.read 4095 = machine.v last := by
  obtain ⟨last, upTo, there⟩ := exists_register starts reaches
  refine ⟨last, by omega, ?_⟩
  rw [there]
  exact machine.store_read_register upTo (by omega)

theorem loadRegisters_of_stored (machine : Machine) {changed : Machine} {x register : Register}
    (memory : changed.memory = (machine.execute (.store x)).memory)
    (index : changed.index = machine.index) (upTo : register ≤ x) :
    (changed.loadRegisters x).v register =
      if machine.index.toNat + register ≤ 4095 then machine.v register
      else (machine.execute (.store x)).memory.read 4095 := by
  rw [loadRegisters_v, if_pos upTo, memory, index]
  split
  · rename_i inside
    exact machine.store_read_register upTo (Nat.lt_succ_of_le inside)
  · rename_i beyond
    rw [Memory.read_of_le _ (by omega)]

theorem store_memory_of_same (machine : Machine) (x : Register)
    (same : ∀ register ≤ x,
      machine.v register = machine.memory.read (machine.index.toNat + register)) :
    (machine.execute (.store x)).memory = machine.memory := by
  apply Memory.ext_read
  intro address inside
  by_cases outside : address < machine.index.toNat ∨ machine.index.toNat + x < address
  · exact machine.store_read_outside outside inside
  · obtain ⟨register, upTo, rfl⟩ : ∃ register ≤ x, address = machine.index.toNat + register :=
      exists_register (by omega) (by omega)
    rw [machine.store_read_register upTo inside, same register upTo]

theorem store_load_memory (machine : Machine) (x : Register) :
    ((machine.loadRegisters x).execute (.store x)).memory = machine.memory := by
  rw [store_memory_of_same, loadRegisters_memory]
  intro register upTo
  rw [loadRegisters_v, if_pos upTo, loadRegisters_memory, loadRegisters_index]

/-- Registers that are dumped by a word `FX55` and then changed are read back by the word `FX65`
with the same `X` as they were, if their place is inside memory; the others become the last byte of
memory, which is the register that was dumped there, or what was there before if the window is
wholly outside. The registers above `X` and the index register stay. In the other order, loading and
dumping leave memory as it is, wherever the window is. -/
theorem dump_and_load (machine : Machine) {dump load : Word}
    (dumpForm : dump.HasForm (.firstByte 0xF055)) (loadForm : load.HasForm (.firstByte 0xF065))
    (sameX : dump.x = load.x) :
    let start := machine.index.toNat
    let dumped := machine.execute (decode dump)
    (∀ registers : Vector UInt8 16,
      let changed := { dumped with registers }
      let loaded := changed.execute (decode load)
      (∀ register ≤ load.x,
        (start + register ≤ 4095 → loaded.v register = machine.v register) ∧
        (4095 < start + register →
          loaded.v register = dumped.memory.cells[4095] ∧
          (start ≤ 4095 →
            ∃ last : Register, last.val = 4095 - start ∧ loaded.v register = machine.v last) ∧
          (4095 < start → loaded.v register = machine.memory.cells[4095]))) ∧
      (∀ register, load.x < register → loaded.v register = changed.v register) ∧
      { loaded with registers } = changed ∧ loaded.index = machine.index) ∧
    ((machine.execute (decode load)).execute (decode dump)).memory = machine.memory := by
  intro start dumped
  have dumping : dumped = machine.execute (.store load.x) := by
    rw [← sameX]
    exact congrArg machine.execute (decode_store dumpForm)
  have memory : dumped.memory = (machine.execute (.store load.x)).memory :=
    congrArg Machine.memory dumping
  have index : dumped.index = machine.index := by
    simp only [dumping, execute]
  refine ⟨fun registers => ?_, ?_⟩
  · intro changed loaded
    have loading : loaded = changed.loadRegisters load.x :=
      congrArg changed.execute (decode_load loadForm)
    have read (register : Register) (upTo : register ≤ load.x) :
        (changed.loadRegisters load.x).v register = _ :=
      machine.loadRegisters_of_stored memory index upTo
    rw [loading]
    refine ⟨fun register upTo => ⟨fun inside => ?_, fun beyond => ?_⟩,
      fun register above => ?_, changed.loadRegisters_others load.x, ?_⟩
    · rw [read register upTo, if_pos inside]
    · rw [read register upTo, if_neg (Nat.not_le_of_lt beyond)]
      refine ⟨?_, fun starts => ?_, fun past => ?_⟩
      · rw [dumping, Memory.read_of_lt]
      · exact machine.store_read_last starts
          (Nat.le_trans (Nat.le_of_lt beyond) (Nat.add_le_add_left upTo start))
      · rw [machine.store_read_outside (.inl past) (by decide), Memory.read_of_lt]
    · rw [loadRegisters_v, if_neg (Fin.not_le.mpr above)]
    · rw [loadRegisters_index]
      exact index
  · rw [decode_load loadForm, decode_store dumpForm, sameX]
    exact machine.store_load_memory load.x

theorem dump_and_load_of_last_bytes :
    let machine := { powerOn ⟨0, 0⟩ with
      registers := Vector.ofFn fun register : Fin 16 => UInt8.ofNat (register + 1)
      index := 4090 }
    let cleared := { machine.execute (decode 0xFF55) with registers := Vector.replicate 16 0 }
    let loaded := cleared.execute (decode 0xFF65)
    Word.HasForm 0xFF55 (.firstByte 0xF055) ∧ Word.HasForm 0xFF65 (.firstByte 0xF065) ∧
      Word.x 0xFF55 = Word.x 0xFF65 ∧ loaded.v 0 = 1 ∧ loaded.v 5 = 6 ∧ loaded.v 15 = 6 ∧
      ((machine.execute (decode 0xFF65)).execute (decode 0xFF55)).memory = machine.memory := by
  intro machine cleared loaded
  have dumpForm : Word.HasForm 0xFF55 (.firstByte 0xF055) := by decide
  have loadForm : Word.HasForm 0xFF65 (.firstByte 0xF065) := by decide
  obtain ⟨back, restored⟩ := dump_and_load machine dumpForm loadForm (by decide)
  obtain ⟨registers, -⟩ := back (Vector.replicate 16 0)
  obtain ⟨last, there, byte⟩ := ((registers 15 (by decide)).2 (by decide)).2.1 (by decide)
  obtain rfl : last = 5 := Fin.ext (there.trans (by decide))
  exact ⟨dumpForm, loadForm, by decide, (registers 0 (by decide)).1 (by decide),
    (registers 5 (by decide)).1 (by decide), byte, restored⟩

end Machine
end Chip8
