import Chip8.Machine.Run
import Chip8.Proofs.Instruction.Forms

namespace Chip8.Machine

theorem isHalted_eq_false_iff (machine : Machine) :
    machine.isHalted = false ↔ machine.fault = none := by
  simp [isHalted]

theorem halt?_eq_none_iff (machine : Machine) : machine.halt? = none ↔ machine.fault = none := by
  unfold halt?
  split <;> simp_all

theorem isHalted_of_halt? {machine : Machine} {halt : Halt} (stopped : machine.halt? = some halt) :
    machine.isHalted := by
  by_contra running
  have going := (isHalted_eq_false_iff machine).mp (Bool.eq_false_iff.mpr running)
  rw [(halt?_eq_none_iff machine).mpr going] at stopped
  cases stopped

theorem execute_calls (machine : Machine) (instruction : Instruction) :
    (machine.execute instruction).calls =
      match instruction with
      | .call _ => if machine.calls.isFull then machine.calls else machine.calls.push machine.pc
      | .leave => if machine.calls.isEmpty then machine.calls else machine.calls.pop.1
      | _ => machine.calls := by
  cases instruction with
  | call target => simp only [execute]; split <;> rfl
  | leave => simp only [execute]; split <;> rfl
  | skip condition => simp only [execute]; split <;> rfl
  | arithmetic operation x y => simp only [execute]; split <;> rfl
  | waitKey x => simp only [execute]; split <;> rfl
  | _ => rfl

theorem execute_fault (machine : Machine) (instruction : Instruction) :
    (machine.execute instruction).fault =
      match instruction with
      | .call _ => if machine.calls.isFull then some (.stack .overflow) else machine.fault
      | .leave => if machine.calls.isEmpty then some (.stack .underflow) else machine.fault
      | _ => machine.fault := by
  cases instruction with
  | call target => simp only [execute]; split <;> rfl
  | leave => simp only [execute]; split <;> rfl
  | skip condition => simp only [execute]; split <;> rfl
  | arithmetic operation x y => simp only [execute]; split <;> rfl
  | waitKey x => simp only [execute]; split <;> rfl
  | _ => rfl

theorem execute_of_other {word : Word} (notCall : ¬ word.IsCall) (notReturn : ¬ word.IsReturn)
    (machine : Machine) :
    (machine.execute (decode word)).calls = machine.calls ∧
      (machine.execute (decode word)).fault = machine.fault := by
  rw [execute_calls, execute_fault]
  cases decoded : decode word with
  | call target => exact absurd (isCall_of_decode decoded) notCall
  | leave => exact absurd (isReturn_of_decode decoded) notReturn
  | _ => exact ⟨rfl, rfl⟩

theorem ofNat_pc_add (pc : UInt16) (distance : Nat) :
    UInt16.ofNat ((pc.toNat + distance) % 65536) = pc + UInt16.ofNat distance := by
  rw [← UInt16.toNat_inj]
  simp

theorem step_of_fault_none {machine : Machine} (running : machine.fault = none) :
    machine.step =
      { machine with pc := machine.pc + 2 }.execute (decode (machine.wordAt machine.pc)) := by
  simp [step, isHalted, running, fetch]

theorem step_of_isHalted {machine : Machine} (halted : machine.isHalted) :
    machine.step = machine := by
  simp [step, halted]

@[simp] theorem run_zero (machine : Machine) : machine.run 0 = machine := rfl

theorem run_succ (machine : Machine) (count : Nat) :
    machine.run (count + 1) = machine.step.run count := rfl

theorem run_add (machine : Machine) (first second : Nat) :
    machine.run (first + second) = (machine.run first).run second := by
  induction first generalizing machine with
  | zero => simp
  | succ first ih =>
      rw [Nat.succ_add]
      exact ih machine.step

theorem run_succ_last (machine : Machine) (count : Nat) :
    machine.run (count + 1) = (machine.run count).step :=
  machine.run_add count 1

theorem run_of_isHalted {machine : Machine} (halted : machine.isHalted) (count : Nat) :
    machine.run count = machine := by
  induction count with
  | zero => rfl
  | succ count ih => rw [run_succ, step_of_isHalted halted, ih]

theorem run_eq_of_isHalted {machine : Machine} {first last : Nat}
    (halted : (machine.run first).isHalted) (later : first ≤ last) :
    machine.run last = machine.run first := by
  obtain ⟨rest, rfl⟩ := Nat.exists_eq_add_of_le later
  rw [run_add, run_of_isHalted halted]

end Chip8.Machine
