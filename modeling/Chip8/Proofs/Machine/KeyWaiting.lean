import Chip8.Proofs.Machine.Stepping

namespace Chip8

namespace Keypad
variable {keypad : Keypad}

def AllReleased (keypad : Keypad) : Prop := ∀ key, keypad.isHeld key = false

instance : DecidablePred AllReleased :=
  fun keypad => inferInstanceAs (Decidable (∀ key, keypad.isHeld key = false))

def IsLowest (keypad : Keypad) (key : Key) : Prop :=
  keypad.isHeld key ∧ ∀ other < key, keypad.isHeld other = false

instance (keypad : Keypad) : DecidablePred keypad.IsLowest :=
  fun _ => inferInstanceAs (Decidable (_ ∧ _))

theorem lowest?_eq_none_iff : keypad.lowest? = none ↔ keypad.AllReleased := by
  simp [lowest?, AllReleased]

theorem isLowest_of_lowest? {key : Key} (found : keypad.lowest? = some key) :
    keypad.IsLowest key := by
  obtain ⟨held, place, inside, here, before⟩ := List.find?_eq_some_iff_getElem.mp found
  refine ⟨held, fun other below => ?_⟩
  have earlier : other.val < place := by
    rw [← here] at below
    simpa [Fin.lt_def] using below
  simpa using before other earlier

theorem exists_lowest? (pressed : ¬ keypad.AllReleased) :
    ∃ key, keypad.lowest? = some key ∧ keypad.IsLowest key := by
  cases found : keypad.lowest? with
  | none => exact absurd (lowest?_eq_none_iff.mp found) pressed
  | some key => exact ⟨key, rfl, isLowest_of_lowest? found⟩

end Keypad

namespace Machine

structure AwaitsKey (machine : Machine) : Prop where
  running : machine.fault = none
  hasForm : (machine.wordAt machine.pc).HasForm (.firstByte 0xF00A)

def nextX (machine : Machine) : Register := (machine.wordAt machine.pc).x

def takeKey (machine : Machine) (key : Key) : Machine :=
  { machine.setV machine.nextX (UInt8.ofNat key.val) with pc := machine.pc + 2 }

namespace AwaitsKey
variable {machine : Machine}

theorem step_eq (awaits : machine.AwaitsKey) :
    machine.step = { machine with pc := machine.pc + 2 }.execute (.waitKey machine.nextX) := by
  rw [step_of_fault_none awaits.running, decode_waitKey awaits.hasForm]
  rfl

theorem step_of_released (awaits : machine.AwaitsKey) (released : machine.keypad.AllReleased) :
    machine.step = machine := by
  -- The program counter has moved on and goes back, around 65536 if need be.
  have back : machine.pc + 2 - 2 = machine.pc := UInt16.add_sub_cancel machine.pc 2
  rw [awaits.step_eq, execute, Keypad.lowest?_eq_none_iff.mpr released]
  simp only [back]

theorem run_of_released (awaits : machine.AwaitsKey) (released : machine.keypad.AllReleased)
    (count : Nat) : machine.run count = machine := by
  induction count with
  | zero => rfl
  | succ count ih => rw [run_succ, awaits.step_of_released released, ih]

theorem step_of_pressed (awaits : machine.AwaitsKey) (pressed : ¬ machine.keypad.AllReleased) :
    ∃ key, machine.keypad.IsLowest key ∧ machine.step = machine.takeKey key := by
  obtain ⟨key, found, lowest⟩ := Keypad.exists_lowest? pressed
  refine ⟨key, lowest, ?_⟩
  rw [awaits.step_eq, execute, found]
  rfl

end AwaitsKey

/-- What a host does in its frames besides running the machine: the timers tick, and the keys are
written. -/
def hostFrames (machine : Machine) (keypads : List Keypad) : Machine :=
  keypads.foldl (fun machine keypad => machine.tickTimers.setKeys keypad) machine

theorem hostFrames_concat (machine : Machine) (keypads : List Keypad) (keypad : Keypad) :
    machine.hostFrames (keypads ++ [keypad]) =
      (machine.hostFrames keypads).tickTimers.setKeys keypad := by
  rw [hostFrames, List.foldl_append]
  rfl

theorem hostFrames_others (machine : Machine) (keypads : List Keypad) :
    { machine.hostFrames keypads with
      delayTimer := machine.delayTimer
      soundTimer := machine.soundTimer
      keypad := machine.keypad } = machine := by
  induction keypads generalizing machine with
  | nil => rfl
  | cons keypad rest ih =>
      have later := ih (machine.tickTimers.setKeys keypad)
      have first : { machine.tickTimers.setKeys keypad with
        delayTimer := machine.delayTimer
        soundTimer := machine.soundTimer
        keypad := machine.keypad } = machine := rfl
      rw [← later] at first
      exact first

theorem runFrames_append (machine : Machine) (first second : List Keypad) (count : Nat) :
    machine.runFrames (first ++ second) count =
      let (between, screens) := machine.runFrames first count
      let (last, later) := between.runFrames second count
      (last, screens ++ later) := by
  induction first generalizing machine with
  | nil => rfl
  | cons keypad rest ih =>
      simp only [List.cons_append, runFrames, ih (machine.runFrame keypad count)]

namespace AwaitsKey
variable {machine : Machine}

theorem hostFrames (awaits : machine.AwaitsKey) (keypads : List Keypad) :
    (machine.hostFrames keypads).AwaitsKey := by
  have same := machine.hostFrames_others keypads
  generalize machine.hostFrames keypads = after at same
  rw [← same] at awaits
  exact ⟨awaits.running, awaits.hasForm⟩

theorem runFrame_of_released (awaits : machine.AwaitsKey) {keypad : Keypad}
    (released : keypad.AllReleased) (count : Nat) :
    machine.runFrame keypad count = machine.tickTimers.setKeys keypad := by
  have still : (machine.tickTimers.setKeys keypad).AwaitsKey := awaits.hostFrames [keypad]
  exact still.run_of_released released count

theorem runFrames_of_released (awaits : machine.AwaitsKey) {keypads : List Keypad}
    (released : ∀ keypad ∈ keypads, keypad.AllReleased) (count : Nat) :
    machine.runFrames keypads count =
      (machine.hostFrames keypads, List.replicate keypads.length machine.screen) := by
  induction keypads generalizing machine with
  | nil => rfl
  | cons keypad rest ih =>
      obtain ⟨first, later⟩ := List.forall_mem_cons.mp released
      have still : (machine.tickTimers.setKeys keypad).AwaitsKey := awaits.hostFrames [keypad]
      simp only [runFrames, awaits.runFrame_of_released first, ih still later]
      rfl

theorem runFrame_of_pressed (awaits : machine.AwaitsKey) {keypad : Keypad}
    (pressed : ¬ keypad.AllReleased) (count : Nat) :
    let found := machine.tickTimers.setKeys keypad
    ∃ key, keypad.IsLowest key ∧ found.step = found.takeKey key ∧
      machine.runFrame keypad (count + 1) = (found.takeKey key).run count := by
  intro found
  have ready : found.AwaitsKey := awaits.hostFrames [keypad]
  obtain ⟨key, lowest, stepped⟩ := ready.step_of_pressed pressed
  refine ⟨key, lowest, stepped, ?_⟩
  rw [runFrame, run_succ, stepped]

end AwaitsKey

/-- A running machine at a word `FX0A` stays as it is while no key is held, however many
instructions it runs; with some key held it stores the number of the lowest one in register `X` and
goes on behind the word. So in frames without a key only the timers and the keypad change. The first
frame with a key ends the wait by its first instruction, with the lowest key of that frame, and the
frames after it are those of the machine that went on. -/
theorem waits_for_lowest_key (machine : Machine) (running : machine.fault = none)
    (hasForm : (machine.wordAt machine.pc).HasForm (.firstByte 0xF00A)) :
    (machine.keypad.AllReleased → ∀ count, machine.run count = machine) ∧
    (¬ machine.keypad.AllReleased → ∃ key, machine.keypad.IsLowest key ∧
      machine.step =
        { machine.setV (machine.wordAt machine.pc).x (UInt8.ofNat key.val) with
          pc := machine.pc + 2 }) ∧
    (∀ keypad, keypad.AllReleased → ∀ count,
      machine.runFrame keypad count = machine.tickTimers.setKeys keypad) ∧
    ∀ waiting : List Keypad, (∀ keypad ∈ waiting, keypad.AllReleased) →
      { machine.hostFrames waiting with
        delayTimer := machine.delayTimer
        soundTimer := machine.soundTimer
        keypad := machine.keypad } = machine ∧
      (∀ count, machine.runFrames waiting count =
        (machine.hostFrames waiting, List.replicate waiting.length machine.screen)) ∧
      ∀ pressed, ¬ pressed.AllReleased → ∀ later count,
        let found := machine.hostFrames (waiting ++ [pressed])
        ∃ key, pressed.IsLowest key ∧ found.step = found.takeKey key ∧
          let frame := (found.takeKey key).run count
          let (last, screens) := frame.runFrames later (count + 1)
          machine.runFrames (waiting ++ pressed :: later) (count + 1) =
            (last, List.replicate waiting.length machine.screen ++ frame.screen :: screens) := by
  have awaits : machine.AwaitsKey := ⟨running, hasForm⟩
  refine ⟨awaits.run_of_released, awaits.step_of_pressed,
    fun keypad released => awaits.runFrame_of_released released, fun waiting released => ?_⟩
  refine ⟨machine.hostFrames_others waiting, awaits.runFrames_of_released released, ?_⟩
  intro pressed held later count found
  obtain ⟨key, lowest, stepped, frame⟩ :=
    (awaits.hostFrames waiting).runFrame_of_pressed held count
  rw [← machine.hostFrames_concat waiting pressed] at stepped frame
  refine ⟨key, lowest, stepped, ?_⟩
  simp only [runFrames_append, awaits.runFrames_of_released released, runFrames, frame]
  rfl

theorem waits_for_lowest_key_of_split_word :
    let memory := (Memory.zero.write 4095 0xF3).write 0 0x0A
    let machine := { powerOn ⟨0, 0⟩ with memory, pc := 65535, delayTimer := 1 }
    let pressed := (Keypad.released.set 9 true).set 7 true
    let frames := machine.runFrames [.released, .released, pressed] 1
    machine.fault = none ∧ (machine.wordAt machine.pc).HasForm (.firstByte 0xF00A) ∧
      machine.run 1000000 = machine ∧
      frames.1.v 3 = 7 ∧ frames.1.pc = 1 ∧ frames.1.memory = memory := by
  intro memory machine pressed frames
  have running : machine.fault = none := rfl
  have hasForm : (machine.wordAt machine.pc).HasForm (.firstByte 0xF00A) := by decide +kernel
  have x : (machine.wordAt machine.pc).x = 3 := by decide +kernel
  have released : Keypad.released.AllReleased := by decide
  obtain ⟨stays, -, -, frames_eq⟩ := waits_for_lowest_key machine running hasForm
  obtain ⟨-, -, ends⟩ := frames_eq [.released, .released] (by simp [released])
  obtain ⟨key, lowest, -, same⟩ := ends pressed (by decide) [] 0
  have unique : ∀ key, pressed.IsLowest key → key = 7 := by decide
  obtain rfl := unique key lowest
  have frame : frames.1 = (machine.hostFrames [.released, .released, pressed]).takeKey 7 :=
    congrArg Prod.fst same
  have stored : frames.1.v 3 = 7 := by
    rw [frame]
    exact (v_setV _ _ _ _).trans (if_pos x.symm)
  have wrapped : (65535 : UInt16) + 2 = 1 := by decide
  exact ⟨running, hasForm, stays released 1000000, stored,
    (congrArg Machine.pc frame).trans wrapped, congrArg Machine.memory frame⟩

end Machine
end Chip8
