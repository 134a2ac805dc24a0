import Chip8.Proofs.Input
import Chip8.Proofs.Interpreter.Settling
import Chip8.Proofs.Machine.WaysToRun

namespace Chip8

inductive Call where
  | tick
  | run (count : Nat)

def Call.steps : Call → Nat
  | tick => 1
  | run count => count

def totalSteps {Time : Type} (calls : List (Reading Time × Call)) : Nat :=
  (calls.map fun call => call.2.steps).sum

theorem totalSteps_cons {Time : Type} (call : Reading Time × Call)
    (calls : List (Reading Time × Call)) :
    totalSteps (call :: calls) = call.2.steps + totalSteps calls := by
  simp [totalSteps]

theorem totalSteps_append {Time : Type} (earlier later : List (Reading Time × Call)) :
    totalSteps (earlier ++ later) = totalSteps earlier + totalSteps later := by
  simp [totalSteps]

namespace Interpreter
variable {Time : Type} [Clock Time]

def answer (interpreter : Interpreter Time) (now : Reading Time) : Call → Reply Time
  | .tick => interpreter.tick now
  | .run count => interpreter.run now (.number (.whole count))

def after (interpreter : Interpreter Time) (calls : List (Reading Time × Call)) :
    Interpreter Time :=
  calls.foldl (fun interpreter call => (interpreter.answer call.1 call.2).interpreter) interpreter

theorem answer_eq (interpreter : Interpreter Time) (now : Reading Time) {call : Call}
    (accepted : Input.isInt32 call.steps) :
    interpreter.answer now call =
      interpreter.settle now (interpreter.machine.run call.steps)
        (.number (.whole call.steps)) (0 : Nat) := by
  cases call with
  | tick => rfl
  | run count =>
      have counted := (Input.count_whole count).trans (if_pos accepted)
      rw [answer, run, counted]
      rfl

theorem after_machine (interpreter : Interpreter Time) {calls : List (Reading Time × Call)}
    (accepted : ∀ call ∈ calls, Input.isInt32 call.2.steps) :
    (interpreter.after calls).machine = interpreter.machine.run (totalSteps calls) := by
  induction calls generalizing interpreter with
  | nil => rfl
  | cons call rest ih =>
      have first : (interpreter.answer call.1 call.2).interpreter.machine =
          interpreter.machine.run call.2.steps := by
        rw [answer_eq _ _ (accepted call List.mem_cons_self), settle_machine]
      rw [totalSteps_cons, Machine.run_add, ← first]
      exact ih _ fun later member => accepted later (List.mem_cons_of_mem _ member)

theorem CanCount.after [LawfulClock Time] {interpreter : Interpreter Time}
    {calls : List (Reading Time × Call)} {more : Nat}
    (accepted : ∀ call ∈ calls, Input.isInt32 call.2.steps)
    (able : interpreter.CanCount (totalSteps calls + more) 0) :
    (interpreter.after calls).CanCount more 0 := by
  induction calls generalizing interpreter with
  | nil => simpa [totalSteps, Interpreter.after] using able
  | cons call rest ih =>
      rw [totalSteps_cons, Nat.add_assoc] at able
      have share : interpreter.CanCount (call.2.steps + (totalSteps rest + more)) (0 + 0) := able
      have first := (share.settle (Number.upTo_whole _) call.1
        (interpreter.machine.run call.2.steps)).2
      rw [← answer_eq _ _ (accepted call List.mem_cons_self)] at first
      exact ih (fun later member => accepted later (List.mem_cons_of_mem _ member)) first

theorem answer_after_problem {interpreter : Interpreter Time} (now : Reading Time) {call : Call}
    {earlier : List (Reading Time × Call)} (accepted : ∀ call ∈ earlier, Input.isInt32 call.2.steps)
    (alsoAccepted : Input.isInt32 call.steps)
    (counted : ((interpreter.after earlier).answer now call).Counted) :
    ((interpreter.after earlier).answer now call).problem =
      (interpreter.machine.run (totalSteps earlier + call.steps)).halt?.map .halt := by
  rw [answer_eq _ _ alsoAccepted] at counted ⊢
  rw [settle_of_counted counted, after_machine interpreter accepted, ← Machine.run_add]

theorem CanCount.answer_after [LawfulClock Time] {interpreter : Interpreter Time}
    (now : Reading Time) {call : Call} {earlier later : List (Reading Time × Call)}
    (able : interpreter.CanCount (totalSteps (earlier ++ (now, call) :: later)) 0)
    (accepted : ∀ call ∈ earlier, Input.isInt32 call.2.steps)
    (alsoAccepted : Input.isInt32 call.steps) :
    ((interpreter.after earlier).answer now call).Counted := by
  rw [totalSteps_append, totalSteps_cons] at able
  have share : (interpreter.after earlier).CanCount (call.steps + totalSteps later) (0 + 0) :=
    CanCount.after accepted able
  rw [answer_eq _ _ alsoAccepted]
  exact (share.settle (Number.upTo_whole _) now _).1

end Interpreter

/-- A run in one piece, in several, by single steps, under a progress bar, in a batch, and by calls
of an interpreter whose faults are caught: all end alike. A call reports a fault exactly if the
machine has stopped by then, and all report the same one. Of a log this asks that it can count the
work; an interpreter refuses counts that are no 32-bit numbers. -/
theorem Machine.runs_agree {machine : Machine} (reachable : machine.Reachable)
    (counts : List Nat) :
    machine.performAll (counts.map .run) = machine.run counts.sum ∧
    machine.performAll (List.replicate counts.sum .step) = machine.run counts.sum ∧
    (∀ rate description,
      (machine.runWithProgress counts.sum rate description).1 = machine.run counts.sum) ∧
    (∀ machines : List Machine,
      counts.foldl runBatch machines = machines.map fun machine => machine.run counts.sum) ∧
    ∀ (Time : Type) [Clock Time] [LawfulClock Time] (interpreter : Interpreter Time)
      (calls : List (Reading Time × Call)),
      interpreter.machine = machine → (∀ call ∈ calls, Input.isInt32 call.2.steps) →
      (interpreter.after calls).machine = machine.run (totalSteps calls) ∧
      ∃ cause address, ∀ earlier now call later, calls = earlier ++ (now, call) :: later →
        let reply := (interpreter.after earlier).answer now call
        (interpreter.CanCount (totalSteps calls) 0 → reply.Counted) ∧
        (reply.Counted → reply.problem =
          if (machine.run (totalSteps earlier + call.steps)).isHalted then
            some (.halt (.stack cause address))
          else none) := by
  refine ⟨performAll_runs machine counts, performAll_steps machine _, runWithProgress_fst machine _,
    fun machines => foldl_runBatch machines counts, ?_⟩
  rintro Time _ _ interpreter calls rfl accepted
  refine ⟨Interpreter.after_machine interpreter accepted, ?_⟩
  -- Whatever the calls are, the machine can stop for one reason only.
  have reason : ∃ cause address, ∀ count, (interpreter.machine.run count).isHalted →
      (interpreter.machine.run count).halt? = some (.stack cause address) := by
    by_cases stops : ∃ count, (interpreter.machine.run count).isHalted
    · obtain ⟨count, halted⟩ := stops
      obtain ⟨cause, found⟩ := (reachable.run count).halt?_eq halted
      exact ⟨cause, _, fun other also => (halt?_run_unique also halted).trans found⟩
    · exact ⟨.overflow, 0, fun count halted => absurd ⟨count, halted⟩ stops⟩
  obtain ⟨cause, address, reason⟩ := reason
  refine ⟨cause, address, ?_⟩
  rintro earlier now call later rfl
  have earlierAccepted : ∀ call ∈ earlier, Input.isInt32 call.2.steps := fun call member =>
    accepted call (List.mem_append_left _ member)
  have callAccepted : Input.isInt32 call.steps := accepted (now, call) (by simp)
  refine ⟨fun able => able.answer_after now earlierAccepted callAccepted, fun counted => ?_⟩
  rw [Interpreter.answer_after_problem now earlierAccepted callAccepted counted]
  split
  · rename_i halted
    rw [reason _ halted]
    rfl
  · rename_i running
    have going := (isHalted_eq_false_iff _).mp (Bool.eq_false_iff.mpr running)
    rw [(halt?_eq_none_iff _).mpr going]
    rfl

theorem Machine.runs_agree_of_endless_calls :
    let machine := (powerOn ⟨0, 0⟩).performAll [.load [0x22, 0x00]]
    let log : SessionLog Float :=
      ⟨⟨"Chippy", .debug, false, true, 0.0⟩, 5.0, .whole 0, .whole 0, 0.0, .whole 0, .whole 0⟩
    let interpreter : Interpreter Float := ⟨machine, some log⟩
    let first : Reading Float × Call := (.both 1.0, .run 16)
    let second : Reading Float × Call := (.both 6.0, .run 0)
    let third : Reading Float × Call := (.both 7.0, .tick)
    let fourth : Reading Float × Call := (.both 8.0, .run 5)
    machine.performAll ([16, 0, 1, 5].map .run) = machine.run 22 ∧
    (interpreter.after [first, second, third, fourth]).machine = machine.run 22 ∧
    ((interpreter.after [first]).answer second.1 second.2).problem = none ∧
    ∃ cause address,
      ((interpreter.after [first, second]).answer third.1 third.2).problem =
        some (.halt (.stack cause address)) ∧
      ((interpreter.after [first, second, third]).answer fourth.1 fourth.2).problem =
        some (.halt (.stack cause address)) := by
  intro machine log interpreter first second third fourth
  have reachable : machine.Reachable := ⟨⟨0, 0⟩, _, rfl⟩
  have agree := runs_agree reachable [16, 0, 1, 5]
  obtain ⟨same, cause, address, replies⟩ := agree.2.2.2.2 Float interpreter
    [first, second, third, fourth] rfl (by decide)
  have able : interpreter.CanCount 22 0 := by
    intro found same
    cases same
    have nothing := Number.upTo_whole 0
    exact ⟨0, 0, ⟨nothing, nothing, nothing, nothing⟩, by decide, by decide⟩
  have running : ¬ (machine.run 16).isHalted := by decide +kernel
  have stopped : (machine.run 17).isHalted := by decide +kernel
  have stillStopped : (machine.run 22).isHalted := by decide +kernel
  have afterOne := replies [first] _ _ [third, fourth] rfl
  have afterTwo := replies [first, second] _ _ [fourth] rfl
  have afterThree := replies [first, second, third] _ _ [] rfl
  exact ⟨agree.1, same, (afterOne.2 (afterOne.1 able)).trans (if_neg running), cause, address,
    (afterTwo.2 (afterTwo.1 able)).trans (if_pos stopped),
    (afterThree.2 (afterThree.1 able)).trans (if_pos stillStopped)⟩

end Chip8
