import Chip8.Machine.Execute
import Chip8.Proofs.Instruction.Forms

namespace Chip8

namespace Arithmetic

def outcome (operation : Arithmetic) (left right : Nat) : Nat × Option Nat :=
  match operation with
  | copy => (right, none)
  | or => (left ||| right, none)
  | and => (left &&& right, none)
  | xor => (left ^^^ right, none)
  | add => ((left + right) % 256, some (if 255 < left + right then 1 else 0))
  | subtract => (((left - right : Int) % 256).toNat, some (if right ≤ left then 1 else 0))
  | shiftRight => (left / 2, some (left % 2))
  | subtractFrom => (((right - left : Int) % 256).toNat, some (if left ≤ right then 1 else 0))
  | shiftLeft => (2 * left % 256, some (left / 128))

theorem sub_toNat (left right : UInt8) :
    (left - right).toNat = ((left.toNat - right.toNat : Int) % 256).toNat := by
  have leftBound := left.toNat_lt
  have rightBound := right.toNat_lt
  rw [UInt8.toNat_sub]
  omega

theorem flag_of_bit {bit : UInt8} {value : Nat} (read : bit.toNat = value) (small : value < 2) :
    (if bit == 1 then 1 else 0) = value := by
  have one : (1 : UInt8).toNat = 1 := rfl
  simp only [beq_iff_eq, ← UInt8.toNat_inj, read, one]
  split <;> omega

theorem apply_toNat (operation : Arithmetic) (left right : UInt8) :
    ((operation.apply left right).1.toNat,
        (operation.apply left right).2.map fun flag => if flag then 1 else 0) =
      operation.outcome left.toNat right.toNat := by
  have leftBound := left.toNat_lt
  cases operation with
  | copy => rfl
  | or | and | xor | add => simp [apply, outcome]
  | subtract => simp [apply, outcome, sub_toNat, UInt8.le_iff_toNat_le]
  | subtractFrom => simp [apply, outcome, sub_toNat, UInt8.le_iff_toNat_le]
  | shiftRight =>
      have result : (left >>> 1).toNat = left.toNat / 2 := by simp [Nat.shiftRight_eq_div_pow]
      have bit : (left &&& 1).toNat = left.toNat % 2 := by simp
      have flag := flag_of_bit bit (by omega)
      simp only [apply, outcome, Option.map_some, result, flag]
  | shiftLeft =>
      have result : (left <<< 1).toNat = 2 * left.toNat % 256 := by
        simp [Nat.shiftLeft_eq, Nat.mul_comm]
      have bit : (left >>> 7).toNat = left.toNat / 128 := by simp [Nat.shiftRight_eq_div_pow]
      have flag := flag_of_bit bit (by omega)
      simp only [apply, outcome, Option.map_some, result, flag]

def all : List Arithmetic :=
  [copy, or, and, xor, add, subtract, shiftRight, subtractFrom, shiftLeft]

theorem exists_form_of_kind :
    ∀ form ∈ Form.listing, Word.kind form.bits = 8 → ∃ operation ∈ all, operation.form = form := by
  decide

end Arithmetic

theorem Word.HasForm.kind_eq {word : Word} {form : Form} (hasForm : word.HasForm form) :
    word.kind = kind form.bits := by
  cases form with
  | only sample => exact congrArg kind hasForm
  | first sample => exact hasForm
  | firstLast sample | firstByte sample => exact hasForm.1

theorem decode_of_no_operation {word : Word} (kind : word.HasForm (.first 0x8000))
    (unlisted : ∀ operation : Arithmetic, ¬ word.HasForm operation.form) :
    decode word = .noop := by
  refine decode_of_unlisted fun form listed hasForm => ?_
  have eight : Word.kind form.bits = 8 := hasForm.kind_eq.symm.trans kind
  obtain ⟨operation, -, rfl⟩ := Arithmetic.exists_form_of_kind form listed eight
  exact unlisted operation hasForm

namespace Machine

/-- What a register holds after a result has been written to `x` and then a flag, if there is one,
to the flag register. -/
def heldAfter (machine : Machine) (x : Register) (outcome : Nat × Option Nat)
    (register : Register) : Nat :=
  let written := if register = x then outcome.1 else (machine.v register).toNat
  match outcome.2 with
  | some flag => if register = flagRegister then flag else written
  | none => written

theorem setV_toNat (machine : Machine) (x register : Register) (value : UInt8) :
    ((machine.setV x value).v register).toNat =
      machine.heldAfter x (value.toNat, none) register := by
  rw [v_setV, apply_ite UInt8.toNat]
  rfl

theorem setV_setFlag_toNat (machine : Machine) (x register : Register) (value : UInt8)
    (flag : Bool) :
    (((machine.setV x value).setFlag flag).v register).toNat =
      machine.heldAfter x (value.toNat, some (if flag then 1 else 0)) register := by
  have number : (if flag then 1 else 0 : UInt8).toNat = if flag then 1 else 0 := by
    cases flag <;> rfl
  rw [setFlag, v_setV, apply_ite UInt8.toNat, setV_toNat, number]
  rfl

theorem execute_arithmetic_toNat (machine : Machine) (operation : Arithmetic)
    (x y register : Register) :
    ((machine.execute (.arithmetic operation x y)).v register).toNat =
      machine.heldAfter x (operation.outcome (machine.v x).toNat (machine.v y).toNat) register := by
  rw [← Arithmetic.apply_toNat]
  simp only [execute]
  split
  · rename_i result flagless
    rw [flagless]
    exact setV_toNat machine x register result
  · rename_i result flag flagged
    rw [flagged]
    exact setV_setFlag_toNat machine x register result flag

theorem execute_arithmetic_others (machine : Machine) (operation : Arithmetic) (x y : Register) :
    { machine.execute (.arithmetic operation x y) with registers := machine.registers } =
      machine := by
  simp only [execute]
  split <;> rfl

/-- A word `8XYN` writes the result of its operation to register `X` and then its flag, if it has
one, to the flag register; a word `7XNN` writes a sum and no flag. The operands are the registers as
they were before, `X` and `Y` may be the same and either may be the flag register, where the flag
wins over the result. No other register and no other part of the machine changes, and a word `8XYN`
of no operation changes nothing. -/
theorem calculates_outcome (machine : Machine) (word : Word) :
    let left := (machine.v word.x).toNat
    let right := (machine.v word.y).toNat
    let after := machine.execute (decode word)
    (∀ operation : Arithmetic, word.HasForm operation.form →
      (∀ register, (after.v register).toNat =
        machine.heldAfter word.x (operation.outcome left right) register) ∧
      { after with registers := machine.registers } = machine) ∧
    (word.HasForm (.first 0x7000) →
      (∀ register, (after.v register).toNat =
        machine.heldAfter word.x ((left + word.nn.toNat) % 256, none) register) ∧
      { after with registers := machine.registers } = machine) ∧
    (word.HasForm (.first 0x8000) → (∀ operation : Arithmetic, ¬ word.HasForm operation.form) →
      after = machine) := by
  intro left right after
  refine ⟨fun operation form => ?_, fun form => ?_, fun kind unlisted => ?_⟩
  · have same : after = machine.execute (.arithmetic operation word.x word.y) :=
      congrArg machine.execute (decode_arithmetic form)
    rw [same]
    exact ⟨fun register => execute_arithmetic_toNat machine operation word.x word.y register,
      execute_arithmetic_others machine operation word.x word.y⟩
  · have same : after = machine.setV word.x (machine.v word.x + word.nn) :=
      congrArg machine.execute (decode_addValue form)
    rw [same]
    refine ⟨fun register => ?_, rfl⟩
    rw [setV_toNat, UInt8.toNat_add]
  · have same : after = machine.execute .noop :=
      congrArg machine.execute (decode_of_no_operation kind unlisted)
    exact same

theorem calculates_outcome_of_flag_operand :
    let machine := ((powerOn ⟨0, 0⟩).setV 15 200).setV 1 100
    let summed := machine.execute (decode 0x8F14)
    let subtracted := machine.execute (decode 0x8115)
    let added := machine.execute (decode 0x7FFF)
    Word.HasForm 0x8F14 Arithmetic.add.form ∧ (summed.v 15).toNat = 1 ∧ (summed.v 1).toNat = 100 ∧
      Word.HasForm 0x8115 Arithmetic.subtract.form ∧
      (subtracted.v 15).toNat = 1 ∧ (subtracted.v 1).toNat = 0 ∧
      Word.HasForm 0x7FFF (.first 0x7000) ∧ (added.v 15).toNat = 199 ∧
      Word.HasForm 0x8128 (.first 0x8000) ∧ machine.execute (decode 0x8128) = machine := by
  intro machine summed subtracted added
  have sumForm : Word.HasForm 0x8F14 Arithmetic.add.form := by decide
  have differenceForm : Word.HasForm 0x8115 Arithmetic.subtract.form := by decide
  have valueForm : Word.HasForm 0x7FFF (.first 0x7000) := by decide
  have kind : Word.HasForm 0x8128 (.first 0x8000) := by decide
  have unlisted (operation : Arithmetic) : ¬ Word.HasForm 0x8128 operation.form := by
    cases operation <;> decide
  have sum := ((calculates_outcome machine 0x8F14).1 .add sumForm).1
  have difference := ((calculates_outcome machine 0x8115).1 .subtract differenceForm).1
  have value := ((calculates_outcome machine 0x7FFF).2.1 valueForm).1
  exact ⟨sumForm, (sum 15).trans (by decide), (sum 1).trans (by decide), differenceForm,
    (difference 15).trans (by decide), (difference 1).trans (by decide), valueForm,
    (value 15).trans (by decide), kind, (calculates_outcome machine 0x8128).2.2 kind unlisted⟩

end Machine
end Chip8
