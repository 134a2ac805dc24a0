import Chip8.Player.Session
import Chip8.Proofs.Interpreter.Settling
import Chip8.Proofs.Machine.Stepping

namespace Chip8

namespace Event

def Plays (event : Event) : Prop :=
  event ≠ .keyDown Keyboard.pause ∧ event ≠ .keyDown Keyboard.backspace

instance (event : Event) : Decidable event.Plays := inferInstanceAs (Decidable (_ ∧ _))

def ends : Event → Bool
  | .quit => true
  | .keyDown code => code == Keyboard.escape
  | _ => false

end Event

def Keypad.press (keypad : Keypad) (keyMap : Bindings Nat Number) (code : Nat) (held : Bool) :
    Keypad :=
  match (keyMap.lookup code).bind Keyboard.selection? with
  | some selection => keypad.setSelected selection held
  | none => keypad

def Keypad.after (keyMap : Bindings Nat Number) (keypad : Keypad) : Event → Keypad
  | .keyDown code => if code = Keyboard.escape then keypad else keypad.press keyMap code true
  | .keyUp code => keypad.press keyMap code false
  | .quit | .other => keypad

def Effect.stroke? : Effect → Option (Stroke Color)
  | .drawn stroke => some stroke
  | _ => none

namespace Turn
variable {Time : Type} {turn : Turn Time} {next : Player Time → Turn Time}

def drawing (turn : Turn Time) : List (Stroke Color) := turn.effects.filterMap Effect.stroke?

theorem andThen_of_finished (finished : turn.failure = none) :
    turn.andThen next =
      { next turn.player with effects := turn.effects ++ (next turn.player).effects } := by
  rw [andThen, finished]

theorem andThen_of_failed (failed : turn.failure ≠ none) : turn.andThen next = turn := by
  unfold andThen
  split
  · rfl
  · contradiction

theorem andThen_finished :
    (turn.andThen next).failure = none ↔
      turn.failure = none ∧ (next turn.player).failure = none := by
  by_cases finished : turn.failure = none
  · simp [andThen_of_finished finished, finished]
  · simp [andThen_of_failed finished, finished]

theorem andThen_player (finished : turn.failure = none) :
    (turn.andThen next).player = (next turn.player).player := by
  rw [andThen_of_finished finished]

theorem drawing_andThen (nothing : turn.drawing = []) :
    (turn.andThen next).drawing =
      if turn.failure = none then (next turn.player).drawing else [] := by
  split
  · rename_i finished
    rw [andThen_of_finished finished, drawing, List.filterMap_append]
    exact congrArg (· ++ _) nothing
  · rename_i failed
    rw [andThen_of_failed failed, nothing]

theorem drawing_andThen_nil (nothing : turn.drawing = [])
    (nextNothing : ∀ player, (next player).drawing = []) : (turn.andThen next).drawing = [] := by
  rw [drawing_andThen nothing, nextNothing, ite_self]

end Turn

namespace Player
variable {Time : Type}

/-! ## Tone and screen -/

theorem updateTone_eq (player : Player Time) :
    ∃ beeping effects, updateTone player = { player := { player with beeping }, effects } ∧
      effects.filterMap Effect.stroke? = [] := by
  unfold updateTone
  dsimp only
  split
  · exact ⟨true, [.toneStarted], rfl, rfl⟩
  · split
    · exact ⟨false, [.toneStopped], rfl, rfl⟩
    · exact ⟨player.beeping, [], rfl, rfl⟩

theorem updateTone_drawing (player : Player Time) : (updateTone player).drawing = [] := by
  obtain ⟨beeping, effects, same, nothing⟩ := player.updateTone_eq
  rw [Turn.drawing, same]
  exact nothing

theorem draw_drawing (player : Player Time) : (draw player).drawing = player.strokes := by
  have drawn : ∀ strokes : List (Stroke Color),
      (strokes.map Effect.drawn).filterMap Effect.stroke? = strokes := by
    intro strokes
    rw [List.filterMap_map]
    exact List.filterMap_some
  rw [Turn.drawing, draw, List.filterMap_append, drawn]
  exact List.append_nil _

/-! ## Events -/

theorem setKey_eq (player : Player Time) (code : Nat) (held : Bool) :
    ∃ failure, player.setKey code held =
      { player := { player with keypad := player.keypad.press player.setup.keyMap code held }
        failure } := by
  unfold setKey Keypad.press
  split
  · rename_i unbound
    exact ⟨none, by simp [unbound]⟩
  · rename_i number bound
    split
    · rename_i selection selected
      exact ⟨none, by simp [bound, selected]⟩
    · rename_i unusable
      exact ⟨some .notKey, by simp [bound, unusable]⟩

def afterEvents (player : Player Time) (events : List Event) : Player Time :=
  { player with
    keypad := events.foldl (Keypad.after player.setup.keyMap) player.keypad
    running := player.running && !events.any Event.ends }

theorem afterEvents_cons (player : Player Time) (event : Event) (rest : List Event) :
    player.afterEvents (event :: rest) = (player.afterEvents [event]).afterEvents rest := by
  simp [afterEvents, Bool.and_assoc]

variable [Clock Time]

theorem handle_eq (player : Player Time) (now : Reading Time) {event : Event}
    (plays : event.Plays) :
    ∃ failure, player.handle now event = { player := player.afterEvents [event], failure } := by
  cases event with
  | quit => exact ⟨none, by simp [handle, afterEvents, Event.ends, Keypad.after]⟩
  | keyDown code =>
      have notPause : code ≠ Keyboard.pause := fun same => plays.1 (same ▸ rfl)
      have notBackspace : code ≠ Keyboard.backspace := fun same => plays.2 (same ▸ rfl)
      by_cases escape : code = Keyboard.escape
      · exact ⟨none, by simp [handle, escape, afterEvents, Event.ends, Keypad.after]⟩
      · obtain ⟨failure, same⟩ := player.setKey_eq code true
        refine ⟨failure, ?_⟩
        simp [handle, escape, notPause, notBackspace, same, afterEvents, Event.ends, Keypad.after]
  | keyUp code =>
      obtain ⟨failure, same⟩ := player.setKey_eq code false
      exact ⟨failure, by simp [handle, same, afterEvents, Event.ends, Keypad.after]⟩
  | other =>
      exact ⟨none, by simp [handle, afterEvents, Event.ends, Keypad.after]⟩

theorem handleAll_player (player : Player Time) (now : Reading Time) {events : List Event}
    (play : ∀ event ∈ events, event.Plays)
    (finished : (player.handleAll now events).failure = none) :
    (player.handleAll now events).player = player.afterEvents events := by
  induction events generalizing player with
  | nil => simp [handleAll, afterEvents]
  | cons event rest ih =>
      obtain ⟨failure, first⟩ := player.handle_eq now (play event List.mem_cons_self)
      obtain ⟨firstFinished, restFinished⟩ := Turn.andThen_finished.mp finished
      rw [handleAll, Turn.andThen_player firstFinished,
        ih _ (fun later member => play later (List.mem_cons_of_mem _ member)) restFinished, first,
        ← afterEvents_cons]

theorem handleAll_drawing (player : Player Time) (now : Reading Time) {events : List Event}
    (play : ∀ event ∈ events, event.Plays) : (player.handleAll now events).drawing = [] := by
  induction events generalizing player with
  | nil => rfl
  | cons event rest ih =>
      have first : (player.handle now event).drawing = [] := by
        obtain ⟨failure, same⟩ := player.handle_eq now (play event List.mem_cons_self)
        rw [same]
        rfl
      exact Turn.drawing_andThen_nil first fun next =>
        ih next fun later member => play later (List.mem_cons_of_mem _ member)

/-! ## A whole turn -/

theorem runFrame_drawing (player : Player Time) (now : Reading Time) :
    (player.runFrame now).drawing = [] := by
  have printed : ∀ text : String,
      (if text = "" then [] else [Effect.printed text]).filterMap Effect.stroke? = [] := by
    intro text
    split <;> rfl
  unfold runFrame
  split
  · rfl
  · dsimp only
    split <;> exact printed _

theorem runFrame_player (player : Player Time) (now : Reading Time) :
    ∃ interpreter paused,
      (player.runFrame now).player = { player with interpreter, paused } := by
  unfold runFrame
  split
  · exact ⟨_, _, rfl⟩
  · dsimp only
    split <;> exact ⟨_, _, rfl⟩

theorem runFrame_of_finished {player : Player Time} {now : Reading Time}
    (unpaused : player.paused = false) (finished : (player.runFrame now).failure = none) :
    ∃ count, Input.count (.number player.setup.instructionsPerFrame) = .ok count ∧
      let reply := player.interpreter.settle now
        (player.interpreter.machine.runFrame player.keypad count.toNat)
        (.number player.setup.instructionsPerFrame) (1 : Nat)
      player.runFrame now =
        { player := {
            player with
            interpreter := reply.interpreter
            paused := reply.interpreter.machine.isHalted }
          effects := if reply.printed = "" then [] else [.printed reply.printed] } := by
  cases counted : Input.count (.number player.setup.instructionsPerFrame) with
  | error error =>
      rw [runFrame, if_neg (by simp [unpaused]), Interpreter.runFrame, counted] at finished
      cases finished
  | ok count =>
      refine ⟨count, rfl, ?_⟩
      rw [runFrame, if_neg (by simp [unpaused]), Interpreter.runFrame_eq _ _ _ counted]
        at finished ⊢
      generalize settled : player.interpreter.settle now
        (player.interpreter.machine.runFrame player.keypad count.toNat)
        (.number player.setup.instructionsPerFrame) (1 : Nat) = reply at finished ⊢
      have reported : ∀ halt?, reply.problem = halt?.map .halt →
          reply.interpreter.machine.halt? = halt? := by
        intro halt? problem
        rw [← settled] at problem ⊢
        rw [Interpreter.settle_machine]
        exact Interpreter.halt?_of_settle problem
      dsimp only at finished ⊢
      split at finished
      · rename_i fine
        have running := (Machine.halt?_eq_none_iff _).mp (reported none fine)
        rw [(Machine.isHalted_eq_false_iff _).mpr running, ← unpaused]
        rfl
      · rename_i cause address stopped
        have halted := Machine.isHalted_of_halt? (reported (some (.stack cause address)) stopped)
        rw [halted]
        rfl
      · cases finished

def prepare (player : Player Time) (now : Reading Time) (events : List Event) : Turn Time :=
  ((player.await.andThen fun next => next.handleAll now events).andThen fun next =>
    next.runFrame now).andThen updateTone

theorem prepare_drawing (player : Player Time) (now : Reading Time) {events : List Event}
    (play : ∀ event ∈ events, event.Plays) : (player.prepare now events).drawing = [] := by
  have awaited : player.await.drawing = [] := rfl
  have handled := Turn.drawing_andThen_nil awaited fun next =>
    next.handleAll_drawing now play
  have ran := Turn.drawing_andThen_nil handled fun next => next.runFrame_drawing now
  exact Turn.drawing_andThen_nil ran updateTone_drawing

theorem turn_drawing_of_failed {player : Player Time} {now : Reading Time} {events : List Event}
    (play : ∀ event ∈ events, event.Plays) (failed : (player.turn now events).failure ≠ none) :
    (player.turn now events).drawing = [] := by
  have failedBefore : (player.prepare now events).failure ≠ none := by
    intro finished
    exact failed (Turn.andThen_finished.mpr ⟨finished, rfl⟩)
  have drawing := player.prepare_drawing now play
  exact (Turn.drawing_andThen drawing).trans (if_neg failedBefore)

theorem turn_of_finished {player : Player Time} {now : Reading Time} {events : List Event}
    (play : ∀ event ∈ events, event.Plays) (finished : (player.turn now events).failure = none) :
    ((player.afterEvents events).runFrame now).failure = none ∧
      (∃ beeping, (player.turn now events).player =
        { ((player.afterEvents events).runFrame now).player with beeping }) ∧
      (player.turn now events).drawing = (player.turn now events).player.strokes := by
  obtain ⟨prepared, -⟩ := Turn.andThen_finished.mp finished
  obtain ⟨ran, -⟩ := Turn.andThen_finished.mp prepared
  obtain ⟨handled, frameRan⟩ := Turn.andThen_finished.mp ran
  obtain ⟨-, eventsHandled⟩ := Turn.andThen_finished.mp handled
  have afterHandling : (player.await.andThen fun next => next.handleAll now events).player =
      player.afterEvents events := player.handleAll_player now play eventsHandled
  rw [afterHandling] at frameRan
  have drawing := player.prepare_drawing now play
  have player_eq : (player.turn now events).player = (player.prepare now events).player :=
    Turn.andThen_player prepared
  refine ⟨frameRan, ?_, ?_⟩
  · obtain ⟨beeping, effects, toned, -⟩ :=
      ((player.afterEvents events).runFrame now).player.updateTone_eq
    refine ⟨beeping, ?_⟩
    rw [player_eq, prepare, Turn.andThen_player ran, Turn.andThen_player handled, afterHandling,
      toned]
  · rw [player_eq]
    exact ((Turn.drawing_andThen drawing).trans (if_pos prepared)).trans (draw_drawing _)

theorem turns_cons {player : Player Time} {now : Reading Time} {events : List Event}
    {rest : List (Reading Time × List Event)}
    (finished : (player.turn now events).failure = none)
    (goesOn : (player.turn now events).player.running ∨ rest = []) :
    player.turns ((now, events) :: rest) =
      player.turn now events :: (player.turn now events).player.turns rest := by
  rw [turns]
  rcases goesOn with running | rfl
  · rw [running, finished]
    rfl
  · simp [turns]

theorem mem_turns {player : Player Time} {script : List (Reading Time × List Event)}
    {turn : Turn Time} (member : turn ∈ player.turns script) :
    ∃ before : Player Time, ∃ entry ∈ script, turn = before.turn entry.1 entry.2 := by
  induction script generalizing player with
  | nil => simp [turns] at member
  | cons entry rest ih =>
      rw [turns] at member
      rcases List.mem_cons.mp member with rfl | later
      · exact ⟨player, entry, List.mem_cons_self, rfl⟩
      · split at later
        · obtain ⟨before, found, inside, same⟩ := ih later
          exact ⟨before, found, List.mem_cons_of_mem _ inside, same⟩
        · cases later

end Player
end Chip8
