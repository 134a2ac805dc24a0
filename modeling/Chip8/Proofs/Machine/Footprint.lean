import Chip8.Proofs.Machine.Stepping

/-!
# What an instruction may change

A machine has eleven parts and sixteen registers. `Instruction.writes` lists the parts that an
instruction may write, and every other part stays as it is (`execute_agreesOn`). `Field.WrittenBy`
says the same of words, part by part, as a listing does (`execute_footprint`).
-/

namespace Chip8

inductive Field where
  | random
  | memory
  | pc
  | screen
  | calls
  | delayTimer
  | soundTimer
  | keypad
  | register (register : Register)
  | index
  | fault
deriving DecidableEq

namespace Machine

def AgreesOn (machine other : Machine) : Field → Prop
  | .random => machine.random = other.random
  | .memory => machine.memory = other.memory
  | .pc => machine.pc = other.pc
  | .screen => machine.screen = other.screen
  | .calls => machine.calls = other.calls
  | .delayTimer => machine.delayTimer = other.delayTimer
  | .soundTimer => machine.soundTimer = other.soundTimer
  | .keypad => machine.keypad = other.keypad
  | .register register => machine.v register = other.v register
  | .index => machine.index = other.index
  | .fault => machine.fault = other.fault

variable {machine other : Machine}

theorem eq_of_agreesOn (agree : ∀ field, machine.AgreesOn other field) : machine = other := by
  have registers : machine.registers = other.registers := by
    apply Vector.ext
    intro place inside
    exact agree (.register ⟨place, inside⟩)
  obtain ⟨random, memory, pc, screen, calls, delayTimer, soundTimer, keypad, _, index, fault⟩ :=
    machine
  cases agree .random
  cases agree .memory
  cases agree .pc
  cases agree .screen
  cases agree .calls
  cases agree .delayTimer
  cases agree .soundTimer
  cases agree .keypad
  cases agree .index
  cases agree .fault
  cases registers
  rfl

theorem setV_agreesOn {x : Register} {field : Field} (apart : field ≠ .register x)
    (machine : Machine) (value : UInt8) : (machine.setV x value).AgreesOn machine field := by
  cases field with
  | register register =>
      have other : register ≠ x := by
        rintro rfl
        exact apart rfl
      rw [AgreesOn, v_setV, if_neg other]
  | _ => rfl

theorem setFlag_agreesOn {field : Field} (apart : field ≠ .register flagRegister)
    (machine : Machine) (flag : Bool) : (machine.setFlag flag).AgreesOn machine field :=
  setV_agreesOn apart machine _

end Machine

/-! ## Instructions -/

def Arithmetic.hasFlag : Arithmetic → Bool
  | copy | or | and | xor => false
  | add | subtract | shiftRight | subtractFrom | shiftLeft => true

def Instruction.writes : Instruction → List Field
  | noop => []
  | clearScreen => [.screen]
  | leave | call _ => [.pc, .calls, .fault]
  | jump _ | skip _ | jumpOffset _ => [.pc]
  | set x _ | addValue x _ | getDelay x => [.register x]
  | arithmetic operation x _ =>
      if operation.hasFlag then [.register x, .register Machine.flagRegister] else [.register x]
  | setIndex _ | addIndex _ | glyph _ => [.index]
  | random x _ => [.random, .register x]
  | draw .. => [.screen, .register Machine.flagRegister]
  | waitKey x => [.pc, .register x]
  | setDelay _ => [.delayTimer]
  | setSound _ => [.soundTimer]
  | digits _ | store _ => [.memory]
  | load x => ((List.finRange 16).filter (· ≤ x)).map .register

namespace Machine

theorem AgreesOn.refl (machine : Machine) (field : Field) : machine.AgreesOn machine field := by
  cases field <;> rfl

theorem AgreesOn.trans {first second third : Machine} {field : Field}
    (left : first.AgreesOn second field) (right : second.AgreesOn third field) :
    first.AgreesOn third field := by
  cases field <;> exact Eq.trans left right

theorem arithmetic_agreesOn {operation : Arithmetic} {x y : Register} {field : Field}
    (spared : field ∉ (Instruction.arithmetic operation x y).writes) (machine : Machine) :
    (machine.execute (.arithmetic operation x y)).AgreesOn machine field := by
  have apart : field ≠ .register x := by
    rintro rfl
    cases operation <;> simp [Instruction.writes, Arithmetic.hasFlag] at spared
  simp only [execute]
  split
  · exact setV_agreesOn apart machine _
  · rename_i flagged
    have apartFlag : field ≠ .register flagRegister := by
      rintro rfl
      cases operation <;>
        simp [Instruction.writes, Arithmetic.hasFlag, Arithmetic.apply] at spared flagged
    exact (setFlag_agreesOn apartFlag _ _).trans (setV_agreesOn apart machine _)

theorem loadRegisters_agreesOn {x : Register} {field : Field}
    (spared : field ∉ (Instruction.load x).writes) (machine : Machine) :
    (machine.loadRegisters x).AgreesOn machine field := by
  cases field with
  | register register =>
      have above : ¬ register ≤ x := by simpa [Instruction.writes] using spared
      simp [AgreesOn, v, loadRegisters, above]
  | _ => simp only [AgreesOn, loadRegisters]

theorem execute_agreesOn {instruction : Instruction} {field : Field}
    (spared : field ∉ instruction.writes) (machine : Machine) :
    (machine.execute instruction).AgreesOn machine field := by
  -- Every instruction is told by the operations it is made of, each with its own list of parts.
  cases instruction with
  | arithmetic operation x y => exact arithmetic_agreesOn spared machine
  | load x => exact loadRegisters_agreesOn spared machine
  | set x _ | addValue x _ | getDelay x =>
      have apart : field ≠ .register x := by simpa [Instruction.writes] using spared
      exact setV_agreesOn apart machine _
  | random x mask =>
      have apart : field ≠ .random ∧ field ≠ .register x := by
        simpa [Instruction.writes] using spared
      refine .trans ?_ (setV_agreesOn apart.2 machine (machine.random.byte &&& mask))
      cases field with
      | random => exact absurd rfl apart.1
      | _ => rfl
  | draw x y height =>
      have apart : field ≠ .screen ∧ field ≠ .register flagRegister := by
        simpa [Instruction.writes] using spared
      refine .trans (setFlag_agreesOn apart.2 _ _) ?_
      cases field with
      | screen => exact absurd rfl apart.1
      | _ => rfl
  | waitKey x =>
      have apart : field ≠ .pc ∧ field ≠ .register x := by simpa [Instruction.writes] using spared
      simp only [execute]
      split
      · exact setV_agreesOn apart.2 machine _
      · cases field with
        | pc => exact absurd rfl apart.1
        | _ => rfl
  | skip condition =>
      have apart : field ≠ .pc := by simpa [Instruction.writes] using spared
      simp only [execute]
      split
      · cases field with
        | pc => exact absurd rfl apart
        | _ => rfl
      · exact .refl machine field
  | leave | call target =>
      simp only [execute]
      split <;> cases field <;> first | rfl | simp [Instruction.writes] at spared
  | _ => cases field <;> first | rfl | simp [Instruction.writes] at spared

end Machine

/-! ## Words -/

def Word.HasFormIn (word : Word) (forms : List Form) : Prop := ∃ form ∈ forms, word.HasForm form

instance (word : Word) (forms : List Form) : Decidable (word.HasFormIn forms) :=
  inferInstanceAs (Decidable (∃ form ∈ forms, _))

/-- The words that may change a part of a machine. -/
def Field.WrittenBy (word : Word) : Field → Prop
  | keypad => False
  | random => word.HasForm (.first 0xC000)
  | screen => word.HasFormIn [.only 0x00E0, .first 0xD000]
  | calls | fault => word.HasFormIn [.first 0x2000, .only 0x00EE]
  | memory => word.HasFormIn [.firstByte 0xF033, .firstByte 0xF055]
  | delayTimer => word.HasForm (.firstByte 0xF015)
  | soundTimer => word.HasForm (.firstByte 0xF018)
  | index => word.HasFormIn [.first 0xA000, .firstByte 0xF01E, .firstByte 0xF029]
  | pc => word.HasFormIn [
      .first 0x1000, .first 0x2000, .only 0x00EE, .first 0xB000,
      .first 0x3000, .first 0x4000, .firstLast 0x5000, .firstLast 0x9000,
      .firstByte 0xE09E, .firstByte 0xE0A1, .firstByte 0xF00A]
  | register target =>
      target = word.x ∧ word.HasFormIn [
        .first 0x6000, .first 0x7000, .first 0xC000, .firstByte 0xF007, .firstByte 0xF00A,
        .firstLast 0x8000, .firstLast 0x8001, .firstLast 0x8002, .firstLast 0x8003] ∨
      (target = word.x ∨ target = Machine.flagRegister) ∧ word.HasFormIn [
        .firstLast 0x8004, .firstLast 0x8005, .firstLast 0x8006, .firstLast 0x8007,
        .firstLast 0x800E] ∨
      target = Machine.flagRegister ∧ word.HasForm (.first 0xD000) ∨
      target ≤ word.x ∧ word.HasForm (.firstByte 0xF065)

private theorem writtenBy_of_build (word : Word) :
    ∀ pattern ∈ patterns, ∀ form, (pattern.build word).form? = some form → word.HasForm form →
      ∀ field ∈ (pattern.build word).writes, field.WrittenBy word := by
  simp +contextual [patterns, Instruction.form?, Condition.form, Arithmetic.form,
    Instruction.writes, Arithmetic.hasFlag, Field.WrittenBy, Word.HasFormIn, Machine.flagRegister]

theorem writtenBy_of_mem_writes {word : Word} {field : Field}
    (written : field ∈ (decode word).writes) : field.WrittenBy word := by
  rcases decode_cases word with ⟨pattern, member, fits, built⟩ | ⟨_, nothing⟩
  · obtain ⟨form, _, same, fits_iff⟩ := form_of_pattern member word
    rw [built] at written
    exact writtenBy_of_build word pattern member form same (fits_iff.mp fits) field written
  · simp [nothing, Instruction.writes] at written

namespace Machine

theorem execute_agreesOn_of_not_writtenBy {word : Word} {field : Field}
    (spared : ¬ field.WrittenBy word) (machine : Machine) :
    (machine.execute (decode word)).AgreesOn machine field :=
  execute_agreesOn (fun written => spared (writtenBy_of_mem_writes written)) machine

theorem execute_of_unlisted {word : Word} (unlisted : ∀ form ∈ Form.listing, ¬ word.HasForm form)
    (machine : Machine) : machine.execute (decode word) = machine := by
  rw [decode_of_unlisted unlisted]
  rfl

/-- A word changes no part of a machine but those that the listing lets it change, and a machine has
no other parts. A word that is not in the listing changes nothing, so a step that meets one only
goes on to the next word. -/
theorem execute_footprint (machine : Machine) (word : Word) :
    (∀ field : Field, ¬ field.WrittenBy word →
        (machine.execute (decode word)).AgreesOn machine field) ∧
      (∀ other : Machine, (∀ field, machine.AgreesOn other field) → machine = other) ∧
      ((∀ form ∈ Form.listing, ¬ word.HasForm form) → machine.execute (decode word) = machine) ∧
      ((∀ form ∈ Form.listing, ¬ (machine.wordAt machine.pc).HasForm form) →
        machine.step =
          if machine.isHalted then machine else { machine with pc := machine.pc + 2 }) := by
  refine ⟨fun field spared => execute_agreesOn_of_not_writtenBy spared machine,
    fun other => eq_of_agreesOn, fun unlisted => execute_of_unlisted unlisted machine, ?_⟩
  intro unlisted
  cases halted : machine.isHalted with
  | true => exact step_of_isHalted halted
  | false =>
      rw [step_of_fault_none ((isHalted_eq_false_iff machine).mp halted)]
      exact execute_of_unlisted unlisted _

theorem execute_footprint_of_unlisted_word :
    let machine := { powerOn ⟨0, 0⟩ with memory := Memory.zero.writeAll 0x200 [0x8A, 0xB8] }
    machine.execute (decode 0x8AB8) = machine ∧ machine.step = { machine with pc := 0x202 } ∧
      (machine.execute (decode 0xFA33)).screen = machine.screen := by
  intro machine
  have fetched : machine.wordAt machine.pc = 0x8AB8 := by decide +kernel
  have unlisted : ∀ form ∈ Form.listing, ¬ Word.HasForm 0x8AB8 form := by decide
  have footprint := execute_footprint machine 0x8AB8
  exact ⟨footprint.2.2.1 unlisted, footprint.2.2.2 (by rw [fetched]; exact unlisted),
    (execute_footprint machine 0xFA33).1 .screen (by unfold Field.WrittenBy; decide)⟩

end Machine
end Chip8
