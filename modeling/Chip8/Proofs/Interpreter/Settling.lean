import Chip8.Interpreter
import Chip8.Proofs.Input
import Chip8.Proofs.Log.Counting

namespace Chip8

theorem Number.upTo_of_count {number : Number} {count : Int}
    (counted : Input.count (.number number) = .ok count) : number.UpTo (2 ^ 31) := by
  intro whole same
  cases number with
  | flag value =>
      cases same
      cases value <;> decide
  | whole value =>
      cases same
      have accepted : Input.isInt32 whole := by
        by_contra refused
        rw [Input.count_whole, if_neg refused] at counted
        cases counted
      simp only [Input.isInt32, Bool.and_eq_true, decide_eq_true_eq] at accepted
      omega
  | real value => cases same

variable {Time : Type}

theorem SessionLog.halted_eq [Clock Time] (log : SessionLog Time) (now : Reading Time)
    (reason : String) :
    log.halted now reason =
      log.console.stamp now.day ++ log.console.tag .error ++ "[" ++ log.console.name ++ "] " ++
        ("Machine halted: " ++ reason) ++ "\n" := by
  have logged : ¬ Level.error.rank < log.console.threshold.rank := by
    cases log.console.threshold <;> decide
  rw [halted, write, Console.log, if_neg logged]

def Reply.Counted (reply : Reply Time) : Prop := ∀ error, reply.problem ≠ some (.count error)

namespace Interpreter
variable {interpreter : Interpreter Time}

/-- The log, if there is one, can count so many more instructions and frames. -/
def CanCount (interpreter : Interpreter Time) (work rounds : Nat) : Prop :=
  ∀ log ∈ interpreter.log, log.CanCount work rounds

theorem CanCount.mono {work rounds moreWork moreRounds : Nat}
    (able : interpreter.CanCount moreWork moreRounds) (workBound : work ≤ moreWork)
    (roundBound : rounds ≤ moreRounds) : interpreter.CanCount work rounds :=
  fun log present => (able log present).mono workBound roundBound

variable [Clock Time]

theorem settle_machine (interpreter : Interpreter Time) (now : Reading Time) (machine : Machine)
    (instructions : Value) (frames : Int) :
    (interpreter.settle now machine instructions frames).interpreter.machine = machine := by
  unfold settle
  split
  · rfl
  · split <;> rfl

theorem settle_log (interpreter : Interpreter Time) (now : Reading Time) (machine : Machine)
    (instructions : Value) (frames : Int) :
    (interpreter.settle now machine instructions frames).interpreter.log =
      (interpreter.recordWork now instructions frames).1 := by
  unfold settle
  split
  · rename_i recorded
    rw [recorded]
  · rename_i recorded
    rw [recorded]
    split <;> rfl

theorem settle_problem (interpreter : Interpreter Time) (now : Reading Time) (machine : Machine)
    (instructions : Value) (frames : Int) :
    (interpreter.settle now machine instructions frames).problem =
      match (interpreter.recordWork now instructions frames).2 with
      | .error error => some (.count error)
      | .ok _ => machine.halt?.map .halt := by
  unfold settle
  split
  · rename_i recorded
    rw [recorded]
  · rename_i recorded
    rw [recorded]
    split
    all_goals
      rename_i halt
      rw [halt]
      rfl

theorem settle_of_counted {now : Reading Time} {machine : Machine} {instructions : Value}
    {frames : Int} (counted : (interpreter.settle now machine instructions frames).Counted) :
    (interpreter.settle now machine instructions frames).problem = machine.halt?.map .halt := by
  have problem := interpreter.settle_problem now machine instructions frames
  split at problem
  · exact absurd problem (counted _)
  · exact problem

theorem halt?_of_settle {now : Reading Time} {machine : Machine} {instructions : Value}
    {frames : Int} {halt? : Option Halt}
    (problem : (interpreter.settle now machine instructions frames).problem = halt?.map .halt) :
    machine.halt? = halt? := by
  rw [settle_problem] at problem
  split at problem
  · cases halt? <;> cases problem
  · cases found : machine.halt? <;> cases halt? <;> simp_all

theorem CanCount.settle [LawfulClock Time] {work rounds moreWork moreRounds : Nat}
    {instructions : Number} (able : interpreter.CanCount (work + moreWork) (rounds + moreRounds))
    (workBound : instructions.UpTo work) (now : Reading Time) (machine : Machine) :
    let reply := interpreter.settle now machine (.number instructions) rounds
    reply.Counted ∧ reply.interpreter.CanCount moreWork moreRounds := by
  have recorded : ∃ log text,
      interpreter.recordWork now (.number instructions) rounds = (log, .ok text) ∧
        ∀ next ∈ log, next.CanCount moreWork moreRounds := by
    unfold recordWork
    split
    · exact ⟨none, "", rfl, by simp⟩
    · rename_i log present
      have logAble := able log present
      split
      · refine ⟨some log, "", rfl, ?_⟩
        intro next same
        rw [← Option.some.inj same]
        exact logAble.mono (Nat.le_add_left _ _) (Nat.le_add_left _ _)
      · obtain ⟨next, text, recorded, nextAble⟩ :=
          logAble.record workBound (Number.upTo_whole rounds) now
        refine ⟨some next, text, by rw [recorded], ?_⟩
        intro found same
        rw [← Option.some.inj same]
        exact nextAble
  obtain ⟨log, text, recorded, nextAble⟩ := recorded
  constructor
  · intro error failed
    rw [settle_problem, recorded] at failed
    cases halt : machine.halt? <;> simp [halt] at failed
  · rw [CanCount, settle_log, recorded]
    exact nextAble

theorem runFrame_eq (interpreter : Interpreter Time) (now : Reading Time) (keypad : Keypad)
    {value : Value} {count : Int} (counted : Input.count value = .ok count) :
    interpreter.runFrame now keypad value =
      interpreter.settle now (interpreter.machine.runFrame keypad count.toNat) value (1 : Nat) := by
  rw [runFrame, counted]
  rfl

end Interpreter
end Chip8
