import Mathlib.Algebra.Order.Ring.Nat
import Chip8.Proofs.Machine.Faults
import Chip8.Proofs.Progress

namespace Chip8

namespace Machine

theorem foldl_step (machine : Machine) (indices : List Nat) :
    indices.foldl (fun machine _ => machine.step) machine = machine.run indices.length := by
  induction indices generalizing machine with
  | nil => rfl
  | cons index rest ih => exact ih machine.step

theorem runWithProgress_fst (machine : Machine) (count : Nat) (rate : Option Number)
    (description : Option String) :
    (machine.runWithProgress count rate description).1 = machine.run count := by
  rw [runWithProgress, Progress.run_fst, foldl_step, List.length_range]
  simp [Progress.plan]

theorem performAll_runs (machine : Machine) (counts : List Nat) :
    machine.performAll (counts.map .run) = machine.run counts.sum := by
  induction counts generalizing machine with
  | nil => rfl
  | cons count rest ih =>
      rw [List.sum_cons, run_add]
      exact ih (machine.run count)

theorem performAll_steps (machine : Machine) (count : Nat) :
    machine.performAll (List.replicate count .step) = machine.run count := by
  induction count generalizing machine with
  | zero => rfl
  | succ count ih =>
      rw [List.replicate_succ]
      exact ih machine.step

theorem foldl_runBatch (machines : List Machine) (counts : List Nat) :
    counts.foldl runBatch machines = machines.map fun machine => machine.run counts.sum := by
  induction counts generalizing machines with
  | nil => simp
  | cons count rest ih =>
      rw [List.foldl_cons, ih, runBatch, List.map_map]
      refine List.map_congr_left fun machine _ => ?_
      rw [List.sum_cons, run_add]
      rfl

theorem halt?_run_unique {machine : Machine} {first second : Nat}
    (stops : (machine.run first).isHalted) (also : (machine.run second).isHalted) :
    (machine.run first).halt? = (machine.run second).halt? := by
  rcases Nat.le_total first second with before | before
  · rw [run_eq_of_isHalted stops before]
  · rw [run_eq_of_isHalted also before]

theorem Reachable.halt?_eq {machine : Machine} (reachable : machine.Reachable)
    (halted : machine.isHalted) :
    ∃ cause, machine.halt? = some (.stack cause (machine.pc - 2)) := by
  rcases reachable.fault with running | ⟨cause, stopped⟩
  · simp [isHalted, running] at halted
  · exact ⟨cause, by simp [halt?, stopped]⟩

end Machine
end Chip8
