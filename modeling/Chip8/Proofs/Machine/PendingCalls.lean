import Chip8.Proofs.Machine.History

/-!
# Pending calls

The call stack of a machine is its list of pending calls, and nothing else: `Holds` says that the
slots are exactly that list, followed by zeros. `pendingCalls` reads the list off a history, looking
only at the words that were executed, and `Path.holds` is the refinement.
-/

namespace Chip8

namespace CallStack

/-- The slots are the pending calls, the innermost last, and the slots after them are zero. -/
structure Holds (stack : CallStack) (pending : List UInt16) : Prop where
  depth : stack.depth.toNat = pending.length
  bounded : pending.length ≤ 16
  slots : stack.slots.toList = pending ++ List.replicate (16 - pending.length) 0

variable {stack : CallStack} {pending : List UInt16}

theorem empty_holds : empty.Holds [] := ⟨rfl, by simp, rfl⟩

theorem Holds.isFull_iff (holds : stack.Holds pending) :
    stack.isFull ↔ ¬ pending.length < 16 := by
  simp [isFull, UInt16.le_iff_toNat_le, holds.depth]

theorem Holds.isEmpty_iff (holds : stack.Holds pending) : stack.isEmpty ↔ pending = [] := by
  simp [isEmpty, ← UInt16.toNat_inj, holds.depth]

theorem setSlot_toList (stack : CallStack) (index : Nat) (address : UInt16) :
    (stack.setSlot index address).slots.toList = stack.slots.toList.set index address := by
  unfold setSlot
  split
  · rename_i inside
    exact Vector.toList_set inside
  · rename_i outside
    rw [List.set_eq_of_length_le (by simpa using outside)]

theorem Holds.unique {other : CallStack} (holds : stack.Holds pending)
    (otherHolds : other.Holds pending) : stack = other := by
  obtain ⟨slots, depth⟩ := stack
  obtain ⟨otherSlots, otherDepth⟩ := other
  congr 1
  · exact Vector.toList_inj.mp (holds.slots.trans otherHolds.slots.symm)
  · exact UInt16.toNat_inj.mp (holds.depth.trans otherHolds.depth.symm)

theorem Holds.push (holds : stack.Holds pending) (room : pending.length < 16) (address : UInt16) :
    (stack.push address).Holds (pending ++ [address]) where
  depth := by
    have deeper : (stack.depth + 1).toNat = pending.length + 1 := by
      rw [UInt16.toNat_add, holds.depth, UInt16.toNat_one]
      omega
    simpa [CallStack.push] using deeper
  bounded := by
    rw [List.length_append, List.length_singleton]
    exact room
  slots := by
    have free : 16 - pending.length = (15 - pending.length) + 1 := by omega
    have rest : 16 - (pending ++ [address]).length = 15 - pending.length := by
      rw [List.length_append, List.length_singleton]
      omega
    calc (stack.push address).slots.toList
        = (pending ++ List.replicate (16 - pending.length) 0).set pending.length address := by
          rw [← holds.slots, ← holds.depth]
          exact setSlot_toList stack _ address
      _ = pending ++ address :: List.replicate (15 - pending.length) 0 := by
          rw [List.set_append_right _ _ (Nat.le_refl _), Nat.sub_self, free, List.replicate_succ,
            List.set_cons_zero]
      _ = (pending ++ [address]) ++ List.replicate (16 - (pending ++ [address]).length) 0 := by
          rw [rest, List.append_assoc, List.singleton_append]

theorem Holds.pop {last : UInt16} (holds : stack.Holds (pending ++ [last])) :
    stack.pop.1.Holds pending ∧ stack.pop.2 = last := by
  have room : pending.length < 16 := by
    have bounded := holds.bounded
    rwa [List.length_append, List.length_singleton] at bounded
  have shallower : (stack.depth - 1).toNat = pending.length := by
    have depth := holds.depth
    rw [List.length_append, List.length_singleton] at depth
    rw [UInt16.toNat_sub_of_le _ _ (by rw [UInt16.le_iff_toNat_le, depth]; simp), depth]
    simp
  have slots := holds.slots
  rw [List.append_assoc, List.singleton_append] at slots
  refine ⟨⟨by simpa [CallStack.pop] using shallower, Nat.le_of_lt room, ?_⟩, ?_⟩
  · have free : 16 - pending.length = (16 - (pending ++ [last]).length) + 1 := by
      rw [List.length_append, List.length_singleton]
      omega
    calc stack.pop.1.slots.toList
        = stack.slots.toList.set pending.length 0 := by
          rw [← shallower]
          exact setSlot_toList stack _ 0
      _ = pending ++ 0 :: List.replicate (16 - (pending ++ [last]).length) 0 := by
          rw [slots, List.set_append_right _ _ (Nat.le_refl _), Nat.sub_self, List.set_cons_zero]
      _ = pending ++ List.replicate (16 - pending.length) 0 := by rw [free, List.replicate_succ]
  · have clamp : min pending.length 15 = pending.length := by omega
    have popped : stack.pop.2 = stack.slots[pending.length] := by
      simp only [CallStack.pop, slot, shallower, clamp]
    rw [popped, ← Vector.getElem_toList (by simpa using room)]
    simp [slots]

end CallStack

/-! ## The calls that a history leaves pending -/

/-- A call that finds room adds the address it would go on at, a return takes the last one off, and
a reset forgets them all. -/
def Moment.pendingAfter (pending : List UInt16) : Moment → List UInt16
  | .executed machine word =>
      if word.IsCall ∧ pending.length < 16 then pending ++ [machine.pc]
      else if word.IsReturn then pending.dropLast
      else pending
  | .ticked => pending
  | .reset => []

def pendingCalls (history : List Moment) : List UInt16 := history.foldl Moment.pendingAfter []

theorem pendingCalls_concat (history : List Moment) (moment : Moment) :
    pendingCalls (history ++ [moment]) = moment.pendingAfter (pendingCalls history) := by
  simp [pendingCalls]

namespace Machine
variable {machine : Machine} {pending : List UInt16}

theorem execute_holds (holds : machine.calls.Holds pending) (word : Word) :
    (machine.execute (decode word)).calls.Holds
      (Moment.pendingAfter pending (.executed machine word)) := by
  by_cases isCall : word.IsCall
  · rw [decode_of_isCall isCall, execute_calls]
    by_cases room : pending.length < 16
    · simpa [Moment.pendingAfter, isCall, room, holds.isFull_iff] using holds.push room machine.pc
    · simpa [Moment.pendingAfter, room, isCall.not_isReturn, holds.isFull_iff] using holds
  by_cases isReturn : word.IsReturn
  · rw [decode_of_isReturn isReturn, execute_calls]
    rcases List.eq_nil_or_concat pending with rfl | ⟨rest, last, rfl⟩
    · simpa [Moment.pendingAfter, isCall, holds.isEmpty_iff] using holds
    · rw [List.concat_eq_append] at holds ⊢
      simpa [Moment.pendingAfter, isCall, isReturn, holds.isEmpty_iff] using holds.pop.1
  · rw [(execute_of_other isCall isReturn machine).1]
    simpa [Moment.pendingAfter, isCall, isReturn] using holds

theorem execute_leave_pc {last : UInt16} (holds : machine.calls.Holds (pending ++ [last])) :
    (machine.execute .leave).pc = last := by
  have occupied : machine.calls.isEmpty = false := by
    rw [Bool.eq_false_iff, ne_eq, holds.isEmpty_iff]
    simp
  simp only [execute, occupied]
  exact holds.pop.2

theorem Path.holds {start : Machine} {history : List Moment} (fresh : start.calls = .empty)
    (path : Path start history machine) : machine.calls.Holds (pendingCalls history) := by
  -- Of all moments only an executed call, an executed return and a reset change either side.
  induction path with
  | start => rw [fresh]; exact CallStack.empty_holds
  | fetched _ _ ih | pressed _ _ ih => exact ih
  | executed _ word ih => rw [pendingCalls_concat]; exact execute_holds ih word
  | loaded _ fits ih => rw [load_eq fits]; exact ih
  | ticked _ ih => rw [pendingCalls_concat]; exact ih
  | reset => rw [pendingCalls_concat]; exact CallStack.empty_holds

/-! ## Calls and their returns -/

variable {below above : List UInt16} {address : UInt16}

theorem step_holds (holds : machine.calls.Holds pending) (running : machine.fault = none) :
    machine.step.calls.Holds
      (Moment.pendingAfter pending (.executed machine.fetch.1 (machine.wordAt machine.pc))) := by
  have fetched : machine.fetch.1.calls.Holds pending := holds
  rw [step_of_fault_none running]
  exact execute_holds fetched _

theorem pendingAfter_keeps (moment : Moment)
    (deep : below.length < (moment.pendingAfter (below ++ address :: above)).length) :
    ∃ rest, moment.pendingAfter (below ++ address :: above) = below ++ address :: rest := by
  cases moment with
  | executed found word =>
      simp only [Moment.pendingAfter] at deep ⊢
      split
      · exact ⟨above ++ [found.pc], by simp⟩
      · split
        · rename_i notCall isReturn
          rw [if_neg notCall, if_pos isReturn] at deep
          rcases List.eq_nil_or_concat above with rfl | ⟨rest, last, rfl⟩
          · simp at deep
          · exact ⟨rest, by simp [List.dropLast_append_of_ne_nil, List.dropLast_cons_of_ne_nil]⟩
        · exact ⟨above, rfl⟩
  | ticked => exact ⟨above, rfl⟩
  | reset => simp [Moment.pendingAfter] at deep

theorem step_keeps (holds : machine.calls.Holds (below ++ address :: above))
    (deep : below.length < machine.step.calls.depth.toNat) :
    ∃ rest, machine.step.calls.Holds (below ++ address :: rest) := by
  by_cases halted : machine.isHalted
  · rw [step_of_isHalted halted]
    exact ⟨above, holds⟩
  · have running := (isHalted_eq_false_iff machine).mp (by simpa using halted)
    have next := step_holds holds running
    obtain ⟨rest, kept⟩ := pendingAfter_keeps _ (next.depth ▸ deep)
    exact ⟨rest, kept ▸ next⟩

theorem run_keeps (holds : machine.calls.Holds (below ++ [address])) (count : Nat)
    (deep : ∀ steps ≤ count, below.length < (machine.run steps).calls.depth.toNat) :
    ∃ above, (machine.run count).calls.Holds (below ++ address :: above) := by
  induction count with
  | zero => exact ⟨[], holds⟩
  | succ count ih =>
      obtain ⟨above, kept⟩ := ih fun steps bound => deep steps (Nat.le_succ_of_le bound)
      have deeper := deep (count + 1) (Nat.le_refl _)
      rw [run_succ_last] at deeper ⊢
      exact step_keeps kept deeper

theorem step_returns (holds : machine.calls.Holds (below ++ address :: above))
    (back : machine.step.calls.depth.toNat = below.length) :
    (machine.wordAt machine.pc).IsReturn ∧ machine.step.pc = address ∧
      machine.step.calls.Holds below := by
  by_cases halted : machine.isHalted
  · rw [step_of_isHalted halted, holds.depth] at back
    simp at back
  have running := (isHalted_eq_false_iff machine).mp (by simpa using halted)
  have next := step_holds holds running
  have length := next.depth.symm.trans back
  by_cases isReturn : (machine.wordAt machine.pc).IsReturn
  · have notCall : ¬ (machine.wordAt machine.pc).IsCall :=
      fun isCall => isCall.not_isReturn isReturn
    simp only [Moment.pendingAfter, notCall, isReturn, false_and, if_false, if_true] at next length
    have last : above = [] := by
      rw [List.length_dropLast, List.length_append, List.length_cons] at length
      exact List.length_eq_zero_iff.mp (by omega)
    subst last
    have fetched : machine.fetch.1.calls.Holds (below ++ [address]) := holds
    refine ⟨isReturn, ?_, by simpa using next⟩
    rw [step_of_fault_none running, decode_of_isReturn isReturn]
    exact execute_leave_pc fetched
  · simp only [Moment.pendingAfter, isReturn, if_false] at length
    split at length <;> simp at length

theorem run_returns (holds : machine.calls.Holds pending) (running : machine.fault = none)
    (isCall : (machine.wordAt machine.pc).IsCall) (room : pending.length < 16) {count : Nat}
    (deep : ∀ steps, 1 ≤ steps → steps ≤ count →
      pending.length < (machine.run steps).calls.depth.toNat)
    (back : (machine.run (count + 1)).calls.depth.toNat = pending.length) :
    ((machine.run count).wordAt (machine.run count).pc).IsReturn ∧
      (machine.run (count + 1)).pc = machine.pc + 2 ∧
      (machine.run (count + 1)).calls = machine.calls := by
  have called : machine.step.calls.Holds (pending ++ [machine.pc + 2]) := by
    have next := step_holds holds running
    rwa [Moment.pendingAfter, if_pos ⟨isCall, room⟩] at next
  cases count with
  | zero =>
      rw [run_succ, run_zero, called.depth] at back
      simp at back
  | succ count =>
      obtain ⟨above, kept⟩ := run_keeps called count fun steps bound =>
        deep (steps + 1) (by omega) (by omega)
      have last : machine.run (count + 1 + 1) = (machine.step.run count).step :=
        run_succ_last machine.step count
      rw [last] at back ⊢
      obtain ⟨isReturn, resumed, same⟩ := step_returns kept back
      exact ⟨isReturn, resumed, same.unique holds⟩

/-! ## The refinement -/

/-- At every moment of every history, and at its end, the call stack is the list of pending calls,
and a return goes to the last of them. A run of steps that starts with a call and stays deeper until
it is back at the depth of the call ends with a return to the address after the call, and with the
call stack that the call found. -/
theorem callStack_holds_pendingCalls (random : RandomKey) (actions : List Action) :
    let machine := (powerOn random).performAll actions
    let history := (powerOn random).history actions
    machine.calls.Holds (pendingCalls history) ∧
      (∀ before found word after, history = before ++ .executed found word :: after →
        found.calls.Holds (pendingCalls before) ∧
          ∀ nonempty : pendingCalls before ≠ [], word.IsReturn →
            (found.execute (decode word)).pc = (pendingCalls before).getLast nonempty) ∧
      ∀ count, machine.fault = none → (machine.wordAt machine.pc).IsCall →
        machine.calls.depth < 16 →
        (∀ steps, 1 ≤ steps → steps ≤ count →
          machine.calls.depth < (machine.run steps).calls.depth) →
        (machine.run (count + 1)).calls.depth = machine.calls.depth →
        ((machine.run count).wordAt (machine.run count).pc).IsReturn ∧
          (machine.run (count + 1)).pc = machine.pc + 2 ∧
          (machine.run (count + 1)).calls = machine.calls := by
  intro machine history
  have path := path_history (powerOn random) actions
  have holds : machine.calls.Holds (pendingCalls history) := path.holds rfl
  refine ⟨holds, ?_, ?_⟩
  · intro before found word after split
    have foundHolds := (path.before_executed split).holds rfl
    refine ⟨foundHolds, fun nonempty isReturn => ?_⟩
    rw [← List.dropLast_concat_getLast nonempty] at foundHolds
    rw [decode_of_isReturn isReturn]
    exact execute_leave_pc foundHolds
  · intro count running isCall room deep back
    rw [UInt16.lt_iff_toNat_lt, holds.depth] at room
    refine run_returns holds running isCall room (fun steps first last => ?_) ?_
    · rw [← holds.depth]
      exact UInt16.lt_iff_toNat_lt.mp (deep steps first last)
    · rw [back, holds.depth]

theorem callStack_holds_pendingCalls_of_nested_calls :
    let machine := (powerOn ⟨0, 0⟩).performAll
      [.load [0x22, 0x06, 0, 0, 0, 0, 0x22, 0x0A, 0x00, 0xEE, 0x00, 0xEE]]
    (machine.wordAt machine.pc).IsCall ∧ (machine.run 4).pc = machine.pc + 2 ∧
      (machine.run 4).calls = machine.calls := by
  have returns := (callStack_holds_pendingCalls ⟨0, 0⟩
    [.load [0x22, 0x06, 0, 0, 0, 0, 0x22, 0x0A, 0x00, 0xEE, 0x00, 0xEE]]).2.2 3
  refine ⟨by decide +kernel, (returns (by decide +kernel) (by decide +kernel) (by decide +kernel)
    (fun steps first last => ?_) (by decide +kernel)).2⟩
  have some : steps = 1 ∨ steps = 2 ∨ steps = 3 := by omega
  rcases some with rfl | rfl | rfl <;> decide +kernel

end Machine
end Chip8
