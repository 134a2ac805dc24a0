import Chip8.Proofs.Machine.PendingCalls

namespace Chip8

/-- Whether an action leaves a stopped machine stopped: all do but a reset and a word that is
executed without asking whether the machine has stopped. -/
def Action.RespectsFault : Action → Prop
  | .execute _ | .reset => False
  | _ => True

namespace Machine
variable {machine : Machine}

def StopsNext (machine : Machine) (cause : StackFault) : Prop :=
  machine.fault = none ∧
    match cause with
    | .overflow => (machine.wordAt machine.pc).IsCall ∧ machine.calls.depth = 16
    | .underflow => (machine.wordAt machine.pc).IsReturn ∧ machine.calls.depth = 0

/-! ## The faults that can be recorded -/

theorem Path.fault {start : Machine} {history : List Moment} (fresh : start.fault = none)
    (path : Path start history machine) :
    machine.fault = none ∨ ∃ cause, machine.fault = some (.stack cause) := by
  induction path with
  | start => exact .inl fresh
  | fetched _ _ ih | pressed _ _ ih | ticked _ ih => exact ih
  | executed _ word ih =>
      rw [execute_fault]
      cases decode word with
      | call target =>
          dsimp only
          split
          · exact .inr ⟨.overflow, rfl⟩
          · exact ih
      | leave =>
          dsimp only
          split
          · exact .inr ⟨.underflow, rfl⟩
          · exact ih
      | _ => exact ih
  | loaded _ fits ih => rw [load_eq fits]; exact ih
  | reset => exact .inl rfl

theorem Reachable.fault (reachable : machine.Reachable) :
    machine.fault = none ∨ ∃ cause, machine.fault = some (.stack cause) := by
  obtain ⟨random, history, path⟩ := reachable.path
  exact path.fault rfl

theorem Reachable.depth_le (reachable : machine.Reachable) : machine.calls.depth ≤ 16 := by
  obtain ⟨random, history, path⟩ := reachable.path
  have holds := path.holds rfl
  rw [UInt16.le_iff_toNat_le, holds.depth]
  exact holds.bounded

/-! ## The step that stops a machine -/

theorem step_of_stopsNext {cause : StackFault} (stops : machine.StopsNext cause) :
    machine.step = { machine with pc := machine.pc + 2, fault := some (.stack cause) } := by
  obtain ⟨running, why⟩ := stops
  rw [step_of_fault_none running]
  cases cause with
  | overflow => simp [decode_of_isCall why.1, execute, CallStack.isFull, why.2]
  | underflow => simp [decode_of_isReturn why.1, execute, CallStack.isEmpty, why.2]

theorem step_fault_none (running : machine.fault = none) (depth : machine.calls.depth ≤ 16)
    (goesOn : ∀ cause, ¬ machine.StopsNext cause) : machine.step.fault = none := by
  rw [step_of_fault_none running]
  -- Only a call and a return can stop a machine, and not if the stack has room or holds a call.
  by_cases isCall : (machine.wordAt machine.pc).IsCall
  · have room : ¬ 16 ≤ machine.calls.depth := by
      intro full
      exact goesOn .overflow ⟨running, isCall, UInt16.le_antisymm depth full⟩
    simpa [decode_of_isCall isCall, execute_fault, CallStack.isFull, room] using running
  by_cases isReturn : (machine.wordAt machine.pc).IsReturn
  · have occupied : machine.calls.depth ≠ 0 := by
      intro empty
      exact goesOn .underflow ⟨running, isReturn, empty⟩
    simpa [decode_of_isReturn isReturn, execute_fault, CallStack.isEmpty, occupied] using running
  · rw [(execute_of_other isCall isReturn _).2]
    exact running

/-! ## Runs -/

theorem run_eq_of_stopsNext {steps count : Nat} {cause : StackFault} (inside : steps < count)
    (stops : (machine.run steps).StopsNext cause) :
    machine.run count =
      { machine.run steps with
        pc := (machine.run steps).pc + 2, fault := some (.stack cause) } := by
  have stopped := step_of_stopsNext stops
  rw [← run_succ_last] at stopped
  have halted : (machine.run (steps + 1)).isHalted := by rw [stopped]; rfl
  rw [run_eq_of_isHalted halted inside, stopped]

theorem run_isHalted_iff (reachable : machine.Reachable) (running : machine.fault = none)
    (count : Nat) :
    (machine.run count).isHalted ↔
      ∃ steps < count, ∃ cause, (machine.run steps).StopsNext cause := by
  constructor
  · intro halted
    by_contra never
    have runs : ∀ steps ≤ count, (machine.run steps).fault = none := by
      intro steps bound
      induction steps with
      | zero => exact running
      | succ steps ih =>
          rw [run_succ_last]
          refine step_fault_none (ih (by omega)) (reachable.run steps).depth_le ?_
          intro cause stops
          exact never ⟨steps, bound, cause, stops⟩
    simp [isHalted, runs count (Nat.le_refl _)] at halted
  · rintro ⟨steps, inside, cause, stops⟩
    rw [run_eq_of_stopsNext inside stops]
    rfl

theorem stopsNext_unique {steps other : Nat} {cause otherCause : StackFault}
    (stops : (machine.run steps).StopsNext cause)
    (also : (machine.run other).StopsNext otherCause) : other = steps ∧ otherCause = cause := by
  rcases Nat.lt_trichotomy other steps with before | rfl | after
  · have running := stops.1
    rw [run_eq_of_stopsNext before also] at running
    cases running
  · have same := (step_of_stopsNext also).symm.trans (step_of_stopsNext stops)
    have fault := congrArg Machine.fault same
    cases fault
    exact ⟨rfl, rfl⟩
  · have running := also.1
    rw [run_eq_of_stopsNext after stops] at running
    cases running

theorem runFrame_halt? (running : machine.fault = none) (keypad : Keypad) (count : Nat) :
    (machine.runFrame keypad count).halt? = none ∨
      ∃ cause address, (machine.runFrame keypad count).halt? = some (.stack cause address) := by
  rcases (Path.start.runFrame keypad count).fault running with going | ⟨cause, stopped⟩
  · exact .inl ((halt?_eq_none_iff _).mpr going)
  · exact .inr ⟨cause, _, by rw [halt?, stopped]⟩

/-! ## Stopped machines -/

theorem runFrame_of_isHalted (halted : machine.isHalted) (keypad : Keypad) (count : Nat) :
    machine.runFrame keypad count = machine.tickTimers.setKeys keypad := by
  have stillHalted : (machine.tickTimers.setKeys keypad).isHalted := halted
  exact run_of_isHalted stillHalted count

def SameHalt (before after : Machine) : Prop := after.fault = before.fault ∧ after.pc = before.pc

theorem SameHalt.trans {first second third : Machine} (left : SameHalt first second)
    (right : SameHalt second third) : SameHalt first third :=
  ⟨right.1.trans left.1, right.2.trans left.2⟩

theorem SameHalt.isHalted {before after : Machine} (same : SameHalt before after)
    (halted : before.isHalted) : after.isHalted := by
  rwa [Machine.isHalted, same.1]

theorem SameHalt.halt? {before after : Machine} (same : SameHalt before after) :
    after.halt? = before.halt? := by
  rw [Machine.halt?, Machine.halt?, same.1, same.2]

theorem runFrames_sameHalt (halted : machine.isHalted) (keypads : List Keypad) (count : Nat) :
    SameHalt machine (machine.runFrames keypads count).1 := by
  induction keypads generalizing machine with
  | nil => exact ⟨rfl, rfl⟩
  | cons keypad rest ih =>
      have first : SameHalt machine (machine.runFrame keypad count) := by
        rw [runFrame_of_isHalted halted]
        exact ⟨rfl, rfl⟩
      exact first.trans (ih (first.isHalted halted))

theorem perform_sameHalt (halted : machine.isHalted) {action : Action}
    (respects : action.RespectsFault) : SameHalt machine (machine.perform action) := by
  cases action with
  | load program =>
      rw [perform]
      split
      · rename_i fits
        rw [load_eq fits]
        exact ⟨rfl, rfl⟩
      · exact ⟨rfl, rfl⟩
  | step => rw [perform, step_of_isHalted halted]; exact ⟨rfl, rfl⟩
  | run count => rw [perform, run_of_isHalted halted]; exact ⟨rfl, rfl⟩
  | runFrame keypad count => rw [perform, runFrame_of_isHalted halted]; exact ⟨rfl, rfl⟩
  | runFrames keypads count => exact runFrames_sameHalt halted keypads count
  | tickTimers | setKey selection held | setKeys keypad => exact ⟨rfl, rfl⟩
  | execute word | reset => cases respects

theorem performAll_sameHalt (halted : machine.isHalted) {actions : List Action}
    (respect : ∀ action ∈ actions, action.RespectsFault) :
    SameHalt machine (machine.performAll actions) := by
  induction actions generalizing machine with
  | nil => exact ⟨rfl, rfl⟩
  | cons action rest ih =>
      have first := perform_sameHalt halted (respect action List.mem_cons_self)
      exact first.trans (ih (first.isHalted halted) fun later member =>
        respect later (List.mem_cons_of_mem _ member))

/-! ## The main statement -/

/-- A run stops a running machine exactly if it meets an instruction that has to stop it. That
instruction is the only one of its kind in the run; of its effects only the fetch and the fault
remain, and the reason names its address. No action but a reset or a word executed directly changes
the reason any more. -/
theorem run_stops_exactly (reachable : machine.Reachable) (running : machine.fault = none)
    (count : Nat) :
    ((machine.run count).isHalted ↔
        ∃ steps < count, ∃ cause, (machine.run steps).StopsNext cause) ∧
      ∀ steps < count, ∀ cause, (machine.run steps).StopsNext cause →
        (∀ other < count, ∀ otherCause, (machine.run other).StopsNext otherCause →
          other = steps ∧ otherCause = cause) ∧
        machine.run count =
          { machine.run steps with
            pc := (machine.run steps).pc + 2, fault := some (.stack cause) } ∧
        (machine.run count).halt? = some (.stack cause (machine.run steps).pc) ∧
        ∀ later : List Action, (∀ action ∈ later, action.RespectsFault) →
          let last := (machine.run count).performAll later
          last.step = last ∧ (∀ more, last.run more = last) ∧
            (∀ keypad more, last.runFrame keypad more =
              { last with
                delayTimer := last.tickTimers.delayTimer
                soundTimer := last.tickTimers.soundTimer
                keypad }) ∧
            last.halt? = some (.stack cause (machine.run steps).pc) := by
  refine ⟨run_isHalted_iff reachable running count, ?_⟩
  intro steps inside cause stops
  have stopped := run_eq_of_stopsNext inside stops
  have halted : (machine.run count).isHalted := by rw [stopped]; rfl
  have reason : (machine.run count).halt? = some (.stack cause (machine.run steps).pc) := by
    rw [stopped]
    simp [halt?]
  refine ⟨fun other _ otherCause also => stopsNext_unique stops also, stopped, reason, ?_⟩
  intro later respect last
  -- What comes later keeps the fault and the program counter, and the rest follows from these.
  have same : SameHalt (machine.run count) last := performAll_sameHalt halted respect
  have stillHalted := same.isHalted halted
  exact ⟨step_of_isHalted stillHalted, run_of_isHalted stillHalted,
    runFrame_of_isHalted stillHalted, same.halt?.trans reason⟩

theorem run_stops_exactly_of_endless_calls :
    let machine := (powerOn ⟨0, 0⟩).performAll [.load [0x22, 0x00]]
    (machine.run 16).StopsNext .overflow ∧
      ((machine.run 40).performAll
          [.runFrames (List.replicate 20 .released) 5, .load [0x00, 0xE0], .run 3]).halt? =
        some (.stack .overflow 0x200) := by
  have facts : let found := ((powerOn ⟨0, 0⟩).performAll [.load [0x22, 0x00]]).run 16
      found.fault = none ∧ (found.wordAt found.pc).IsCall ∧ found.calls.depth = 16 ∧
        found.pc = 0x200 := by decide +kernel
  obtain ⟨running, isCall, full, address⟩ := facts
  have stops : (((powerOn ⟨0, 0⟩).performAll [.load [0x22, 0x00]]).run 16).StopsNext .overflow :=
    ⟨running, isCall, full⟩
  have exactly := run_stops_exactly ⟨⟨0, 0⟩, [.load [0x22, 0x00]], rfl⟩ (by decide +kernel) 40
  have forever := (exactly.2 16 (by decide) .overflow stops).2.2.2
    [.runFrames (List.replicate 20 .released) 5, .load [0x00, 0xE0], .run 3]
    (by simp [Action.RespectsFault])
  rw [address] at forever
  exact ⟨stops, forever.2.2.2⟩

end Machine
end Chip8
