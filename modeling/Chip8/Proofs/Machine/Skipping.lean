import Chip8.Proofs.Machine.Loading
import Chip8.Proofs.Machine.Stepping

namespace Chip8

inductive SkipTest where
  | byte
  | register
  | key
deriving DecidableEq

namespace SkipTest

/-- The words that skip if the test passes (`true`), and those that skip if it fails. -/
def form : SkipTest → (wanted : Bool) → Form
  | byte, true => .first 0x3000
  | byte, false => .first 0x4000
  | register, true => .firstLast 0x5000
  | register, false => .firstLast 0x9000
  | key, true => .firstByte 0xE09E
  | key, false => .firstByte 0xE0A1

def Passes (machine : Machine) (word : Word) : SkipTest → Prop
  | byte => (machine.v word.x).toNat = word.toNat % 256
  | register => (machine.v word.x).toNat = (machine.v word.y).toNat
  | key => machine.keypad.held[(machine.v word.x).toNat % 16] = true

instance (machine : Machine) (word : Word) : DecidablePred (Passes machine word)
  | byte | register | key => inferInstanceAs (Decidable (_ = _))

def SameOperands (word other : Word) : SkipTest → Prop
  | byte => word.x = other.x ∧ word.nn = other.nn
  | register => word.x = other.x ∧ word.y = other.y
  | key => word.x = other.x

instance (word other : Word) : DecidablePred (SameOperands word other)
  | byte | register => inferInstanceAs (Decidable (_ ∧ _))
  | key => inferInstanceAs (Decidable (_ = _))

def condition (word : Word) : SkipTest → (wanted : Bool) → Condition
  | byte, true => .equals word.x word.nn
  | byte, false => .differs word.x word.nn
  | register, true => .same word.x word.y
  | register, false => .distinct word.x word.y
  | key, true => .held word.x
  | key, false => .notHeld word.x

theorem decode_eq {test : SkipTest} {wanted : Bool} {word : Word}
    (hasForm : word.HasForm (test.form wanted)) :
    decode word = .skip (test.condition word wanted) := by
  have member : ⟨(test.form wanted).mask, (test.form wanted).bits,
      fun word => .skip (test.condition word wanted)⟩ ∈ patterns := by
    cases test <;> cases wanted <;> simp [patterns, form, Form.mask, Form.bits, condition]
  have built : (Instruction.skip (test.condition word wanted)).form? = some (test.form wanted) := by
    cases test <;> cases wanted <;> rfl
  exact decode_of_hasForm member built hasForm

theorem holds_iff (test : SkipTest) (wanted : Bool) (machine : Machine) (word : Word) :
    (test.condition word wanted).holds machine ↔
      (test.Passes machine word ↔ wanted = true) := by
  cases test with
  | byte =>
      have number : machine.v word.x = word.nn ↔ (machine.v word.x).toNat = word.toNat % 256 := by
        rw [← UInt8.toNat_inj, Word.nn, UInt16.toNat_toUInt8]
      cases wanted <;> simp [condition, Condition.holds, Passes, number]
  | register =>
      cases wanted <;> simp [condition, Condition.holds, Passes, UInt8.toNat_inj]
  | key =>
      cases wanted <;> simp [condition, Condition.holds, Passes, Keypad.isHeld, keyOf, Nibble.low]

theorem passes_congr {test : SkipTest} {word other : Word} (operands : test.SameOperands word other)
    (machine : Machine) : test.Passes machine word ↔ test.Passes machine other := by
  cases test with
  | byte =>
      obtain ⟨x, nn⟩ := operands
      have byte : word.toNat % 256 = other.toNat % 256 := by
        simpa [Word.nn] using congrArg UInt8.toNat nn
      simp only [Passes, x, byte]
  | register => simp only [Passes, operands.1, operands.2]
  | key =>
      have x : word.x = other.x := operands
      simp only [Passes, x]

theorem step_eq {test : SkipTest} {wanted : Bool} {machine : Machine}
    (running : machine.fault = none)
    (hasForm : (machine.wordAt machine.pc).HasForm (test.form wanted)) :
    machine.step =
      { machine with
        pc := UInt16.ofNat ((machine.pc.toNat +
          if test.Passes machine (machine.wordAt machine.pc) ↔ wanted = true then 4 else 2) %
            65536) } := by
  let fetched := { machine with pc := machine.pc + 2 }
  have looks : (test.condition (machine.wordAt machine.pc) wanted).holds fetched ↔
      (test.Passes machine (machine.wordAt machine.pc) ↔ wanted = true) :=
    test.holds_iff wanted machine _
  rw [Machine.step_of_fault_none running, decode_eq hasForm, Machine.execute,
    Machine.ofNat_pc_add]
  by_cases skips : test.Passes machine (machine.wordAt machine.pc) ↔ wanted = true
  · rw [if_pos (looks.mpr skips), if_pos skips, UInt16.add_assoc]
    rfl
  · rw [if_neg (mt looks.mp skips), if_neg skips]
    rfl

theorem exactly_one_skips {test : SkipTest} {wanted : Bool} {machine other : Machine}
    (running : machine.fault = none)
    (hasForm : (machine.wordAt machine.pc).HasForm (test.form wanted)) {memory : Memory}
    (replaced : other = { machine with memory })
    (reversed : (other.wordAt other.pc).HasForm (test.form !wanted))
    (operands : test.SameOperands (machine.wordAt machine.pc) (other.wordAt other.pc)) :
    machine.step.pc = machine.pc + 4 ∧ other.step.pc = machine.pc + 2 ∨
      machine.step.pc = machine.pc + 2 ∧ other.step.pc = machine.pc + 4 := by
  have outcome : test.Passes other (other.wordAt other.pc) ↔
      test.Passes machine (machine.wordAt machine.pc) := by
    rw [passes_congr operands machine, replaced]
    cases test <;> rfl
  have otherRunning : other.fault = none := by rw [replaced]; exact running
  have samePc : other.pc = machine.pc := by rw [replaced]
  rw [step_eq running hasForm, step_eq otherRunning reversed]
  simp only [outcome, Machine.ofNat_pc_add]
  rw [samePc]
  by_cases passes : test.Passes machine (machine.wordAt machine.pc) <;>
    cases wanted <;> simp [passes]

def gap : SkipTest → Word
  | byte => 0x1000
  | register => 0x4000
  | key => 3

def opposite (test : SkipTest) (wanted : Bool) (word : Word) : Word :=
  if wanted then word + test.gap else word - test.gap

theorem opposite_toNat (test : SkipTest) (wanted : Bool) (word : Word) :
    (test.opposite wanted word).toNat =
      if wanted then (word.toNat + test.gap.toNat) % 65536
      else (65536 - test.gap.toNat + word.toNat) % 65536 := by
  cases wanted with
  | true => exact UInt16.toNat_add word test.gap
  | false => exact UInt16.toNat_sub word test.gap

theorem opposite_spec {test : SkipTest} {wanted : Bool} {word : Word}
    (hasForm : word.HasForm (test.form wanted)) :
    (test.opposite wanted word).HasForm (test.form !wanted) ∧
      test.SameOperands word (test.opposite wanted word) := by
  have bound := word.toNat_lt
  have moved := test.opposite_toNat wanted word
  generalize test.opposite wanted word = other at moved ⊢
  cases test <;> cases wanted <;>
    simp [form, gap, Word.HasForm, SameOperands, Word.kind, Word.x, Word.y, Word.n, Word.nn,
      Nibble.low, Fin.ext_iff, ← UInt8.toNat_inj] at hasForm moved ⊢ <;>
    omega

end SkipTest

namespace Machine

theorem exists_memory_wordAt (machine : Machine) {pc : UInt16} (word : Word)
    (apart : pc.toNat < 4095 ∨ pc.toNat = 65535) :
    ∃ memory : Memory, { machine with memory }.wordAt pc = word := by
  have next : (pc + 1).toNat = (pc.toNat + 1) % 65536 := UInt16.toNat_add pc 1
  have bound : min pc.toNat 4095 < 4096 := by omega
  have nextInside : (pc + 1).toNat < 4096 := by omega
  -- At 4095 both bytes would be the last one of memory.
  have other : min pc.toNat 4095 ≠ (pc + 1).toNat := by omega
  have clamped (memory : Memory) : memory.read pc.toNat = memory.read (min pc.toNat 4095) := by
    simp [Memory.read]
  refine ⟨(machine.memory.write (min pc.toNat 4095) (word >>> 8).toUInt8).write (pc + 1).toNat
    word.toUInt8, ?_⟩
  rw [wordAt, clamped]
  simp only [Memory.read_write _ _ _ _ bound, Memory.read_write _ _ _ _ nextInside, if_neg other,
    if_true]
  exact join_wordBytes word

/-- A step of a running machine on one of the words `3XNN`, `4XNN`, `5XY0`, `9XY0`, `EX9E` and
`EXA1` changes nothing but the program counter, which moves by four if the test has the outcome that
the word wants and by two otherwise, around at 65536. If memory holds the word for the other outcome
instead, with the same operands, exactly one of the two machines skips; and there is such a memory
wherever the two bytes of a word have places of their own. -/
theorem skips_by_test (machine : Machine) (running : machine.fault = none) (test : SkipTest)
    (wanted : Bool) (hasForm : (machine.wordAt machine.pc).HasForm (test.form wanted)) :
    let word := machine.wordAt machine.pc
    machine.step =
      { machine with
        pc := UInt16.ofNat ((machine.pc.toNat +
          if test.Passes machine word ↔ wanted = true then 4 else 2) % 65536) } ∧
    (∀ memory : Memory,
      let other := { machine with memory }
      (other.wordAt other.pc).HasForm (test.form !wanted) →
      test.SameOperands word (other.wordAt other.pc) →
        machine.step.pc = machine.pc + 4 ∧ other.step.pc = machine.pc + 2 ∨
          machine.step.pc = machine.pc + 2 ∧ other.step.pc = machine.pc + 4) ∧
    (machine.pc.toNat < 4095 ∨ machine.pc.toNat = 65535 → ∃ memory : Memory,
      ({ machine with memory }.wordAt machine.pc).HasForm (test.form !wanted) ∧
        test.SameOperands word ({ machine with memory }.wordAt machine.pc)) := by
  intro word
  refine ⟨SkipTest.step_eq running hasForm, ?_, ?_⟩
  · intro memory other reversed operands
    exact SkipTest.exactly_one_skips running hasForm rfl reversed operands
  · intro apart
    obtain ⟨memory, there⟩ := machine.exists_memory_wordAt (test.opposite wanted word) apart
    refine ⟨memory, ?_⟩
    rw [there]
    exact SkipTest.opposite_spec hasForm

theorem skips_by_test_of_split_word :
    let memory := (Memory.zero.write 4095 0xE3).write 0 0x9E
    let keypad := Keypad.released.set 7 true
    let machine := { (powerOn ⟨0, 0⟩).setV 3 0x17 with memory, keypad, pc := 65535 }
    let other := { machine with memory := memory.write 0 0xA1 }
    machine.fault = none ∧ (machine.wordAt machine.pc).HasForm (SkipTest.key.form true) ∧
      (other.wordAt other.pc).HasForm (SkipTest.key.form false) ∧
      machine.step = { machine with pc := 3 } ∧ other.step.pc = 1 := by
  intro memory keypad machine other
  have running : machine.fault = none := rfl
  have hasForm : (machine.wordAt machine.pc).HasForm (SkipTest.key.form true) := by decide +kernel
  have reversed : (other.wordAt other.pc).HasForm (SkipTest.key.form false) := by decide +kernel
  have operands :
      SkipTest.key.SameOperands (machine.wordAt machine.pc) (other.wordAt other.pc) := by
    decide +kernel
  have passes : SkipTest.key.Passes machine (machine.wordAt machine.pc) := by decide +kernel
  obtain ⟨steps, either, -⟩ := skips_by_test machine running .key true hasForm
  have around : UInt16.ofNat ((machine.pc.toNat + 4) % 65536) = 3 := by decide
  rw [if_pos (iff_of_true passes rfl), around] at steps
  refine ⟨running, hasForm, reversed, steps, ?_⟩
  rcases either (memory.write 0 0xA1) reversed operands with ⟨_, stays⟩ | ⟨stays, _⟩
  · exact stays.trans (by decide)
  · rw [steps] at stays
    exact absurd stays (by decide)

end Machine
end Chip8
