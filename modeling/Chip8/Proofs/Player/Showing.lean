import Chip8.Proofs.Machine.Faults
import Chip8.Proofs.Player.Turns

namespace Chip8

def Keypad.ofEvents (keyMap : Bindings Nat Number) (keypad : Keypad) :
    (script : List (List Event)) → List Keypad
  | [] => []
  | events :: rest =>
      let next := events.foldl (Keypad.after keyMap) keypad
      next :: ofEvents keyMap next rest

namespace Player
variable {Time : Type} {player : Player Time} {machine : Machine}

/-- The player shows the screen of the machine, and will show its next ones. -/
inductive Shows (player : Player Time) (machine : Machine) : Prop where
  | running (unpaused : player.paused = false) (same : player.interpreter.machine = machine)
      (runs : machine.fault = none)
  | stopped (paused : player.paused = true)
      (same : player.interpreter.machine.screen = machine.screen) (halted : machine.isHalted)

theorem Shows.screen (shows : player.Shows machine) :
    player.interpreter.machine.screen = machine.screen := by
  cases shows with
  | running unpaused same runs => rw [same]
  | stopped paused same halted => exact same

theorem Shows.afterEvents (shows : player.Shows machine) (events : List Event) :
    (player.afterEvents events).Shows machine := by
  cases shows with
  | running unpaused same runs => exact .running unpaused same runs
  | stopped paused same halted => exact .stopped paused same halted

variable [Clock Time] {now : Reading Time}

theorem Shows.runFrame (shows : player.Shows machine) {count : Int}
    (counted : Input.count (.number player.setup.instructionsPerFrame) = .ok count)
    (finished : (player.runFrame now).failure = none) :
    (player.runFrame now).player.Shows (machine.runFrame player.keypad count.toNat) := by
  -- A paused player runs nothing, and the machine on its own keeps its screen once it has stopped.
  cases shows with
  | stopped paused same halted =>
      rw [Player.runFrame, if_pos paused, Machine.runFrame_of_isHalted halted]
      exact .stopped paused same halted
  | running unpaused same runs =>
      subst same
      obtain ⟨_, alsoCounted, ran⟩ := runFrame_of_finished unpaused finished
      cases counted.symm.trans alsoCounted
      have kept : (player.runFrame now).player.interpreter.machine =
          player.interpreter.machine.runFrame player.keypad count.toNat := by
        rw [ran]
        exact Interpreter.settle_machine _ _ _ _ _
      have pauses : (player.runFrame now).player.paused =
          (player.runFrame now).player.interpreter.machine.isHalted := by rw [ran]
      rw [kept] at pauses
      cases halted : (player.interpreter.machine.runFrame player.keypad count.toNat).isHalted with
      | true => exact .stopped (pauses.trans halted) (congrArg Machine.screen kept) halted
      | false =>
          exact .running (pauses.trans halted) kept ((Machine.isHalted_eq_false_iff _).mp halted)

theorem Shows.turn (shows : player.Shows machine) {count : Int} {events : List Event}
    (counted : Input.count (.number player.setup.instructionsPerFrame) = .ok count)
    (play : ∀ event ∈ events, event.Plays) (finished : (player.turn now events).failure = none) :
    (player.turn now events).player.Shows
      (machine.runFrame (player.afterEvents events).keypad count.toNat) := by
  obtain ⟨ran, ⟨beeping, same⟩, -⟩ := turn_of_finished play finished
  rw [same]
  cases (shows.afterEvents events).runFrame counted ran with
  | running unpaused same runs => exact .running unpaused same runs
  | stopped paused same halted => exact .stopped paused same halted

theorem turn_keeps {events : List Event} (play : ∀ event ∈ events, event.Plays)
    (finished : (player.turn now events).failure = none) :
    (player.turn now events).player.setup = player.setup ∧
      (player.turn now events).player.keypad = (player.afterEvents events).keypad ∧
      (player.turn now events).player.running = (player.afterEvents events).running := by
  obtain ⟨-, ⟨beeping, same⟩, -⟩ := turn_of_finished play finished
  obtain ⟨interpreter, paused, ran⟩ := (player.afterEvents events).runFrame_player now
  rw [same, ran]
  exact ⟨rfl, rfl, rfl⟩

theorem turns_show (shows : player.Shows machine) {count : Int}
    (counted : Input.count (.number player.setup.instructionsPerFrame) = .ok count)
    {script : List (Reading Time × List Event)}
    (play : ∀ entry ∈ script, ∀ event ∈ entry.2, event.Plays)
    {index : Nat} {turn : Turn Time} (found : (player.turns script)[index]? = some turn)
    (finished : turn.failure = none) :
    let keypads := Keypad.ofEvents player.setup.keyMap player.keypad (script.map Prod.snd)
    keypads[index]? = some turn.player.keypad ∧
      (machine.runFrames keypads count.toNat).2[index]? =
        some turn.player.interpreter.machine.screen ∧
      turn.drawing = turn.player.strokes ∧ turn.player.setup = player.setup := by
  induction script generalizing player machine index with
  | nil => simp [turns] at found
  | cons entry rest ih =>
      obtain ⟨now, events⟩ := entry
      have firstPlay := play (now, events) List.mem_cons_self
      cases index with
      | zero =>
          cases found
          obtain ⟨setup, keypad, -⟩ := turn_keeps firstPlay finished
          have shown := shows.turn counted firstPlay finished
          refine ⟨congrArg some keypad.symm, congrArg some shown.screen.symm, ?_, setup⟩
          exact (turn_of_finished firstPlay finished).2.2
      | succ index =>
          rw [turns, List.getElem?_cons_succ] at found
          split at found
          · rename_i goesOn
            have firstFinished : (player.turn now events).failure = none := by
              simpa using (Bool.and_eq_true_iff.mp goesOn).2
            obtain ⟨setup, keypad, -⟩ := turn_keeps firstPlay firstFinished
            have shown := shows.turn counted firstPlay firstFinished
            rw [← setup] at counted
            have others := ih shown counted
              (fun later member => play later (List.mem_cons_of_mem _ member)) found
            rw [setup, keypad] at others
            exact others
          · simp at found

end Player
end Chip8
