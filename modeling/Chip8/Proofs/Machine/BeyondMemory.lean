import Chip8.Proofs.Machine.FontSafety
import Chip8.Proofs.Machine.Stepping

namespace Chip8.Machine
variable {machine : Machine} {last : UInt8}

theorem wordAt_eq_ofNat (machine : Machine) (pc : UInt16) :
    machine.wordAt pc = UInt16.ofNat (256 * (machine.memory.read pc.toNat).toNat +
      (machine.memory.read (pc + 1).toNat).toNat) := by
  have high := (machine.memory.read pc.toNat).toNat_lt
  have low := (machine.memory.read (pc + 1).toNat).toNat_lt
  rw [← UInt16.toNat_inj, wordAt, join_bytes_toNat, UInt16.toNat_ofNat_of_lt']
  simp only [UInt16.size]
  omega

theorem wordAt_beyond (ends : machine.memory.read 4095 = last) {pc : UInt16}
    (beyond : 4095 ≤ pc.toNat) (inside : pc.toNat ≤ 65534) :
    machine.wordAt pc = UInt16.ofNat (257 * last.toNat) := by
  have next : (pc + 1).toNat = (pc.toNat + 1) % 65536 := UInt16.toNat_add pc 1
  have nextBeyond : 4095 ≤ (pc + 1).toNat := by omega
  rw [wordAt_eq_ofNat, Memory.read_of_le _ beyond, Memory.read_of_le _ nextBeyond, ends]
  congr 1
  omega

theorem wordAt_last (ends : machine.memory.read 4095 = last) :
    machine.wordAt 65535 =
      UInt16.ofNat (256 * last.toNat + (machine.memory.read 0).toNat) := by
  have around : ((65535 : UInt16) + 1).toNat = 0 := rfl
  rw [wordAt_eq_ofNat, Memory.read_of_le _ (by decide), around, ends]

theorem step_of_noop (running : machine.fault = none)
    (nothing : decode (machine.wordAt machine.pc) = .noop) :
    machine.step = { machine with pc := machine.pc + 2 } := by
  rw [step_of_fault_none running, nothing]
  rfl

theorem run_beyond (running : machine.fault = none)
    (ends : machine.memory.read 4095 = last)
    (nothing : decode (UInt16.ofNat (257 * last.toNat)) = .noop)
    (beyond : 4095 ≤ machine.pc.toNat) {count : Nat}
    (inside : machine.pc.toNat + 2 * count ≤ 65536) :
    machine.run count = { machine with pc := machine.pc + UInt16.ofNat (2 * count) } := by
  induction count with
  | zero =>
      have still : machine.pc + UInt16.ofNat (2 * 0) = machine.pc := UInt16.add_zero machine.pc
      rw [still, run_zero]
  | succ count ih =>
      let found := { machine with pc := machine.pc + UInt16.ofNat (2 * count) }
      -- The bound on the count keeps the address from going around.
      have there : found.pc.toNat = machine.pc.toNat + 2 * count := by
        rw [UInt16.toNat_add, UInt16.toNat_ofNat']
        omega
      have word : found.wordAt found.pc = UInt16.ofNat (257 * last.toNat) :=
        wordAt_beyond ends (by omega) (by omega)
      calc machine.run (count + 1)
          = found.step := by rw [run_succ_last, ih (by omega)]
        _ = { machine with pc := machine.pc + UInt16.ofNat (2 * count) + 2 } :=
          step_of_noop running (by rw [word, nothing])
        _ = { machine with pc := machine.pc + UInt16.ofNat (2 * (count + 1)) } := by
          rw [Nat.mul_succ, UInt16.ofNat_add, ← UInt16.add_assoc]
          rfl

/-- If the last byte of memory, taken twice, is a word that fits no pattern, then a running machine
at 4095 or beyond goes on by two with each step and changes nothing else, as long as its steps begin
before 65535. From an even address it so comes back to address 0. From an odd one it comes to 65535,
where it executes the word of the last byte and the first; if the last is zero and the font is in
memory, this does nothing, too, and the machine is at address 1. -/
theorem walks_beyond_memory (machine : Machine) (running : machine.fault = none)
    (beyond : 4095 ≤ machine.pc.toNat) (last : UInt8) (ends : machine.memory.read 4095 = last)
    (fitsNone : ∀ pattern ∈ patterns, ¬ pattern.fits (UInt16.ofNat (257 * last.toNat))) :
    (∀ count, machine.pc.toNat + 2 * count ≤ 65536 →
      machine.run count =
        { machine with pc := UInt16.ofNat ((machine.pc.toNat + 2 * count) % 65536) }) ∧
    (machine.pc.toNat % 2 = 0 →
      machine.run ((65536 - machine.pc.toNat) / 2) = { machine with pc := 0 }) ∧
    (machine.pc.toNat % 2 = 1 →
      let steps := (65535 - machine.pc.toNat) / 2
      let word := UInt16.ofNat (256 * last.toNat + (machine.memory.read 0).toNat)
      machine.run steps = { machine with pc := 65535 } ∧
      machine.wordAt 65535 = word ∧
      machine.run (steps + 1) = { machine with pc := 1 }.execute (decode word) ∧
      (last = 0 → machine.memory.HasFont →
        machine.run (steps + 1) = { machine with pc := 1 })) := by
  have nothing := decode_of_fits_none fitsNone
  have walk (count : Nat) (inside : machine.pc.toNat + 2 * count ≤ 65536) :
      machine.run count =
        { machine with pc := UInt16.ofNat ((machine.pc.toNat + 2 * count) % 65536) } := by
    rw [run_beyond running ends nothing beyond inside, ofNat_pc_add]
  have bound := machine.pc.toNat_lt
  refine ⟨walk, ?_, ?_⟩
  · intro even
    have around : (machine.pc.toNat + 2 * ((65536 - machine.pc.toNat) / 2)) % 65536 = 0 := by omega
    rw [walk _ (by omega), around]
    rfl
  · intro odd steps word
    have half : steps = (65535 - machine.pc.toNat) / 2 := rfl
    clear_value steps
    have inside : machine.pc.toNat + 2 * steps ≤ 65536 := by omega
    have reached : (machine.pc.toNat + 2 * steps) % 65536 = 65535 := by omega
    have arrives : machine.run steps = { machine with pc := 65535 } := by
      rw [walk steps inside, reached]
      rfl
    have fetched : machine.wordAt 65535 = word := wordAt_last ends
    have around : (65535 : UInt16) + 2 = 1 := by decide
    have stillRunning : { machine with pc := 65535 }.fault = none := running
    have stepped : { machine with pc := 65535 }.step =
        { machine with pc := 1 }.execute (decode (machine.wordAt 65535)) := by
      rw [step_of_fault_none stillRunning, ← around]
      rfl
    have executes :
        machine.run (steps + 1) = { machine with pc := 1 }.execute (decode word) := by
      rw [run_succ_last, arrives, stepped, fetched]
    refine ⟨arrives, fetched, executes, ?_⟩
    rintro rfl hasFont
    have first : machine.memory.read 0 = 0xF0 := hasFont 0 (by decide)
    have none : decode word = .noop := by
      simp only [word, first]
      decide
    rw [executes, none]
    rfl

theorem walks_beyond_memory_of_zero :
    let machine := { powerOn ⟨0, 0⟩ with pc := 4095 }
    machine.fault = none ∧ machine.memory.read 4095 = 0 ∧
      (∀ pattern ∈ patterns, ¬ pattern.fits (UInt16.ofNat (257 * (0 : UInt8).toNat))) ∧
      machine.run 30720 = { machine with pc := 65535 } ∧
      machine.run 30721 = { machine with pc := 1 } ∧
      { machine with pc := 4096 }.run 30720 = { machine with pc := 0 } := by
  intro machine
  have running : machine.fault = none := rfl
  have ends : machine.memory.read 4095 = 0 := by decide +kernel
  have fitsNone :
      ∀ pattern ∈ patterns, ¬ pattern.fits (UInt16.ofNat (257 * (0 : UInt8).toNat)) := by
    decide
  have steps : (65535 - machine.pc.toNat) / 2 = 30720 := by decide
  obtain ⟨-, -, odd⟩ := walks_beyond_memory machine running (by decide) 0 ends fitsNone
  obtain ⟨arrives, -, -, passes⟩ := odd (by decide)
  rw [steps] at arrives passes
  obtain ⟨-, even, -⟩ :=
    walks_beyond_memory { machine with pc := 4096 } running (by decide) 0 ends fitsNone
  have returns := even (by decide)
  rw [show (65536 - (4096 : UInt16).toNat) / 2 = 30720 by decide] at returns
  exact ⟨running, ends, fitsNone, arrives, passes rfl (powerOn_hasFont ⟨0, 0⟩), returns⟩

end Chip8.Machine
