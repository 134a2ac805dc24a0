import Chip8.Proofs.Machine.Footprint
import Chip8.Proofs.Machine.History

namespace Chip8

def Moment.Executes (forms : List Form) : Moment → Prop
  | .executed _ word => word.HasFormIn forms
  | .ticked | .reset => False

instance (forms : List Form) : DecidablePred (Moment.Executes forms)
  | .executed _ word => inferInstanceAs (Decidable (word.HasFormIn forms))
  | .ticked | .reset => inferInstanceAs (Decidable False)

def Form.ofTimers : List Form := [.firstByte 0xF007, .firstByte 0xF015, .firstByte 0xF018]

def Form.ofKeys : List Form := [.firstByte 0xE09E, .firstByte 0xE0A1, .firstByte 0xF00A]

theorem Word.hasFormIn_of_decode {word : Word} {instruction : Instruction} {forms : List Form}
    (decoded : decode word = instruction)
    (listed : ∃ form ∈ forms, instruction.form? = some form) : word.HasFormIn forms := by
  obtain ⟨form, member, same⟩ := listed
  rw [← decoded] at same
  exact ⟨form, member, hasForm_of_decode same⟩

namespace Machine

def withTimers (machine : Machine) (delayTimer soundTimer : UInt8) : Machine :=
  { machine with delayTimer, soundTimer }

/-- No instruction but those of the given forms can tell whether the change was made. -/
structure Unnoticed (change : Machine → Machine) (forms : List Form) : Prop where
  isHalted : ∀ machine, (change machine).isHalted = machine.isHalted
  fetch : ∀ machine, (change machine).fetch = (change machine.fetch.1, machine.fetch.2)
  execute : ∀ machine word, ¬ word.HasFormIn forms →
    (change machine).execute (decode word) = change (machine.execute (decode word))

variable {change : Machine → Machine} {forms : List Form} {machine : Machine}

theorem Unnoticed.step (unnoticed : Unnoticed change forms)
    (apart : ∀ moment ∈ machine.stepMoments, ¬ moment.Executes forms) :
    (change machine).step = change machine.step := by
  cases halted : machine.isHalted with
  | true =>
      have alsoHalted := (unnoticed.isHalted machine).trans halted
      rw [step_of_isHalted halted, step_of_isHalted alsoHalted]
  | false =>
      have alsoRuns := (unnoticed.isHalted machine).trans halted
      have other : ¬ machine.fetch.2.HasFormIn forms :=
        apart (.executed machine.fetch.1 machine.fetch.2) (by simp [stepMoments, halted])
      simp only [Machine.step, halted, alsoRuns, unnoticed.fetch]
      exact unnoticed.execute machine.fetch.1 machine.fetch.2 other

theorem Unnoticed.run (unnoticed : Unnoticed change forms) {count : Nat}
    (apart : ∀ moment ∈ machine.runMoments count, ¬ moment.Executes forms) :
    (change machine).run count = change (machine.run count) := by
  induction count generalizing machine with
  | zero => rfl
  | succ count ih =>
      have first := unnoticed.step fun moment member => apart moment (List.mem_append_left _ member)
      rw [run_succ, run_succ, first]
      exact ih fun moment member => apart moment (List.mem_append_right _ member)

theorem execute_withTimers {word : Word} (other : ¬ word.HasFormIn Form.ofTimers)
    (machine : Machine) (delay sound : UInt8) :
    (machine.withTimers delay sound).execute (decode word) =
      (machine.execute (decode word)).withTimers delay sound := by
  cases decoded : decode word with
  | getDelay x | setDelay x | setSound x =>
      exact absurd (Word.hasFormIn_of_decode decoded ⟨_, by decide, rfl⟩) other
  | skip condition =>
      -- Conditions look at registers and keys, none at a timer.
      have same : condition.holds (machine.withTimers delay sound) = condition.holds machine := by
        cases condition <;> rfl
      simp only [execute, same]
      split <;> rfl
  | arithmetic operation x y => cases operation <;> rfl
  | leave => by_cases empty : machine.calls.isEmpty <;> simp [execute, withTimers, empty]
  | call target => by_cases full : machine.calls.isFull <;> simp [execute, withTimers, full]
  | waitKey x => cases found : machine.keypad.lowest? <;> simp [execute, withTimers, setV, found]
  | _ => rfl

theorem tickTimers_unnoticed : Unnoticed tickTimers Form.ofTimers where
  isHalted _ := rfl
  fetch _ := rfl
  execute machine word other := by
    have sparesDelay : ¬ Field.delayTimer.WrittenBy word :=
      fun written => other ⟨.firstByte 0xF015, by decide, written⟩
    have sparesSound : ¬ Field.soundTimer.WrittenBy word :=
      fun written => other ⟨.firstByte 0xF018, by decide, written⟩
    have delay : (machine.execute (decode word)).delayTimer = machine.delayTimer :=
      execute_agreesOn_of_not_writtenBy sparesDelay machine
    have sound : (machine.execute (decode word)).soundTimer = machine.soundTimer :=
      execute_agreesOn_of_not_writtenBy sparesSound machine
    rw [tickTimers, tickTimers, delay, sound]
    exact execute_withTimers other machine _ _

theorem execute_setKeys {word : Word} (other : ¬ word.HasFormIn Form.ofKeys)
    (machine : Machine) (keypad : Keypad) :
    (machine.setKeys keypad).execute (decode word) =
      (machine.execute (decode word)).setKeys keypad := by
  cases decoded : decode word with
  | waitKey x =>
      exact absurd (Word.hasFormIn_of_decode decoded ⟨_, by decide, rfl⟩) other
  | skip condition =>
      have same : condition.holds (machine.setKeys keypad) = condition.holds machine := by
        cases condition with
        | held x | notHeld x =>
            refine absurd (Word.hasFormIn_of_decode decoded ⟨_, ?_, rfl⟩) other
            simp [Condition.form, Form.ofKeys]
        | _ => rfl
      simp only [execute, same]
      split <;> rfl
  | arithmetic operation x y => cases operation <;> rfl
  | leave => by_cases empty : machine.calls.isEmpty <;> simp [execute, setKeys, empty]
  | call target => by_cases full : machine.calls.isFull <;> simp [execute, setKeys, full]
  | _ => rfl

theorem setKeys_unnoticed (keypad : Keypad) :
    Unnoticed (fun machine => machine.setKeys keypad) Form.ofKeys where
  isHalted _ := rfl
  fetch _ := rfl
  execute machine _ other := execute_setKeys other machine keypad

theorem setSelected_unnoticed (selection : KeySelection) (held : Bool) :
    Unnoticed (fun machine => machine.setSelected selection held) Form.ofKeys where
  isHalted _ := rfl
  fetch _ := rfl
  execute machine word other := by
    have spared : ¬ Field.keypad.WrittenBy word := id
    have keypad : (machine.execute (decode word)).keypad = machine.keypad :=
      execute_agreesOn_of_not_writtenBy spared machine
    rw [setSelected, setSelected, keypad]
    exact execute_setKeys other machine _

/-- A tick of the timers before a run does the same as one after it, unless the run executes an
instruction that reads or sets a timer. So does setting the keys, all of them or the one of any
index, unless the run executes an instruction that looks at them. Between ticks and keys the order
never matters. All this holds of stopped machines, too. -/
theorem host_commutes_with_run (machine : Machine) (count : Nat) :
    ((∀ moment ∈ machine.runMoments count, ¬ moment.Executes Form.ofTimers) →
        (machine.run count).tickTimers = machine.tickTimers.run count) ∧
      ((∀ moment ∈ machine.runMoments count, ¬ moment.Executes Form.ofKeys) →
        (∀ keypad, (machine.run count).setKeys keypad = (machine.setKeys keypad).run count) ∧
          ∀ selection held, (machine.run count).setSelected selection held =
            (machine.setSelected selection held).run count) ∧
      (∀ keypad, (machine.setKeys keypad).tickTimers = machine.tickTimers.setKeys keypad) ∧
      ∀ selection held, (machine.setSelected selection held).tickTimers =
        machine.tickTimers.setSelected selection held := by
  refine ⟨?_, ?_, fun _ => rfl, fun _ _ => rfl⟩
  · intro apart
    exact (tickTimers_unnoticed.run apart).symm
  · intro apart
    constructor
    · intro keypad
      exact ((setKeys_unnoticed keypad).run apart).symm
    · intro selection held
      exact ((setSelected_unnoticed selection held).run apart).symm

theorem host_commutes_with_run_of_endless_calls :
    let machine :=
      { (powerOn ⟨0, 0⟩).performAll [.load [0xD0, 0x15, 0x70, 0x03, 0x22, 0x00]] with
        delayTimer := 9 }
    (∀ moment ∈ machine.runMoments 60, ¬ moment.Executes Form.ofTimers) ∧
      (∀ moment ∈ machine.runMoments 60, ¬ moment.Executes Form.ofKeys) ∧
      (machine.run 60).isHalted ∧
      (machine.run 60).tickTimers = machine.tickTimers.run 60 ∧
      (machine.run 60).setSelected (.one (-1)) true =
        (machine.setSelected (.one (-1)) true).run 60 := by
  intro machine
  have apart : ∀ moment ∈ machine.runMoments 60,
      ¬ moment.Executes Form.ofTimers ∧ ¬ moment.Executes Form.ofKeys := by decide +kernel
  have noTimers : ∀ moment ∈ machine.runMoments 60, ¬ moment.Executes Form.ofTimers :=
    fun moment member => (apart moment member).1
  have noKeys : ∀ moment ∈ machine.runMoments 60, ¬ moment.Executes Form.ofKeys :=
    fun moment member => (apart moment member).2
  have commutes := host_commutes_with_run machine 60
  exact ⟨noTimers, noKeys, by decide +kernel, commutes.1 noTimers,
    (commutes.2.1 noKeys).2 (.one (-1)) true⟩

end Machine
end Chip8
