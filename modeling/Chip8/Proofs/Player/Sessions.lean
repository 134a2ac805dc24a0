import Chip8.Proofs.Player.Turns

/-!
# The course of a session

Whatever its events are, a turn handles them, runs a frame, looks after the tone and draws, and it
fails only if the events or the frame do (`turn_finished_iff`, `turn_eq`). `Played` takes a session
from turn to turn, so what every turn preserves holds throughout a session (`Played.preserves`).
-/

namespace Chip8

def Effect.text? : Effect → Option String
  | .printed text => some text
  | _ => none

def Effect.tone? : Effect → Option Bool
  | .toneStarted => some true
  | .toneStopped => some false
  | _ => none

namespace Turn
variable {Time Note : Type} {turn : Turn Time} {next : Player Time → Turn Time}

def noted (note? : Effect → Option Note) (turn : Turn Time) : List Note :=
  turn.effects.filterMap note?

def PrintsOnly (turn : Turn Time) : Prop := ∀ effect ∈ turn.effects, ∃ text, effect = .printed text

theorem noted_andThen (note? : Effect → Option Note) :
    (turn.andThen next).noted note? =
      turn.noted note? ++ if turn.failure = none then (next turn.player).noted note? else [] := by
  split
  · rename_i finished
    rw [andThen_of_finished finished, noted, List.filterMap_append]
    rfl
  · rename_i failed
    rw [andThen_of_failed failed, List.append_nil]

theorem andThen_eq (finished : turn.failure = none)
    (alsoFinished : (next turn.player).failure = none) :
    turn.andThen next =
      { player := (next turn.player).player
        effects := turn.effects ++ (next turn.player).effects } := by
  simp [andThen_of_finished finished, alsoFinished]

theorem PrintsOnly.andThen (prints : turn.PrintsOnly)
    (nextPrints : (next turn.player).PrintsOnly) : (turn.andThen next).PrintsOnly := by
  by_cases finished : turn.failure = none
  · rw [andThen_of_finished finished]
    intro effect member
    exact (List.mem_append.mp member).elim (prints effect) (nextPrints effect)
  · rwa [andThen_of_failed finished]

theorem PrintsOnly.noted_eq_nil (prints : turn.PrintsOnly) {note? : Effect → Option Note}
    (ignored : ∀ text, note? (.printed text) = none) : turn.noted note? = [] := by
  refine List.filterMap_eq_nil_iff.mpr fun effect member => ?_
  obtain ⟨text, rfl⟩ := prints effect member
  exact ignored text

end Turn

namespace Player
variable {Time : Type} {player : Player Time} {now : Reading Time} {events : List Event}

theorem updateTone_failure (player : Player Time) : (updateTone player).failure = none := by
  obtain ⟨beeping, effects, same, -⟩ := player.updateTone_eq
  rw [same]

theorem updateTone_noted_eq_nil (player : Player Time) {Note : Type} {note? : Effect → Option Note}
    (started : note? .toneStarted = none) (stopped : note? .toneStopped = none) :
    (updateTone player).noted note? = [] := by
  unfold updateTone
  dsimp only
  split
  · simp [Turn.noted, started]
  · split <;> simp [Turn.noted, stopped]

theorem draw_noted_eq_nil (player : Player Time) {Note : Type} {note? : Effect → Option Note}
    (drawn : ∀ stroke, note? (.drawn stroke) = none) (shown : note? .shown = none) :
    (draw player).noted note? = [] := by
  refine List.filterMap_eq_nil_iff.mpr fun effect member => ?_
  rcases List.mem_append.mp member with stroke | last
  · obtain ⟨stroke, -, rfl⟩ := List.mem_map.mp stroke
    exact drawn _
  · rwa [List.mem_singleton.mp last]

variable [Clock Time]

/-! ## Events -/

theorem handle_of_ne_backspace (player : Player Time) (now : Reading Time) {event : Event}
    (other : event ≠ .keyDown Keyboard.backspace) :
    ∃ keypad running paused failure, player.handle now event =
      { player := { player with keypad, running, paused }, failure } := by
  cases event with
  | quit | other => exact ⟨_, _, _, none, rfl⟩
  | keyDown code =>
      have notBackspace : code ≠ Keyboard.backspace := fun same => other (same ▸ rfl)
      obtain ⟨failure, same⟩ := player.setKey_eq code true
      simp only [handle, if_neg notBackspace, same]
      split
      · exact ⟨_, _, _, none, rfl⟩
      split
      · exact ⟨_, _, _, none, rfl⟩
      · exact ⟨_, _, _, failure, rfl⟩
  | keyUp code =>
      obtain ⟨failure, same⟩ := player.setKey_eq code false
      exact ⟨_, _, _, failure, same⟩

theorem handleAll_of_ne_backspace (player : Player Time) (now : Reading Time) {events : List Event}
    (others : ∀ event ∈ events, event ≠ .keyDown Keyboard.backspace) :
    ∃ keypad running paused failure, player.handleAll now events =
      { player := { player with keypad, running, paused }, failure } := by
  induction events generalizing player with
  | nil => exact ⟨_, _, _, none, rfl⟩
  | cons event rest ih =>
      obtain ⟨keypad, running, paused, failure, first⟩ :=
        player.handle_of_ne_backspace now (others event List.mem_cons_self)
      rw [handleAll, first]
      cases failure with
      | some error => exact ⟨_, _, _, some error, rfl⟩
      | none =>
          obtain ⟨_, _, _, later, same⟩ := ih { player with keypad, running, paused }
            fun event member => others event (List.mem_cons_of_mem _ member)
          exact ⟨_, _, _, later, by rw [Turn.andThen_of_finished rfl, same]; rfl⟩

theorem handle_keeps (player : Player Time) (now : Reading Time) (event : Event) :
    ∃ interpreter keypad running paused, (player.handle now event).player =
      { player with interpreter, keypad, running, paused } := by
  by_cases backspace : event = .keyDown Keyboard.backspace
  · subst backspace
    exact ⟨_, _, _, _, rfl⟩
  · obtain ⟨_, _, _, _, same⟩ := player.handle_of_ne_backspace now backspace
    exact ⟨_, _, _, _, congrArg Turn.player same⟩

theorem handle_setup (player : Player Time) (now : Reading Time) (event : Event) :
    (player.handle now event).player.setup = player.setup := by
  obtain ⟨_, _, _, _, same⟩ := player.handle_keeps now event
  rw [same]

theorem handleAll_keeps (player : Player Time) (now : Reading Time) (events : List Event) :
    ∃ interpreter keypad running paused, (player.handleAll now events).player =
      { player with interpreter, keypad, running, paused } := by
  induction events generalizing player with
  | nil => exact ⟨_, _, _, _, rfl⟩
  | cons event rest ih =>
      obtain ⟨_, _, _, _, first⟩ := player.handle_keeps now event
      rw [handleAll]
      by_cases finished : (player.handle now event).failure = none
      · obtain ⟨_, _, _, _, later⟩ := ih (player.handle now event).player
        exact ⟨_, _, _, _, by rw [Turn.andThen_player finished, later, first]⟩
      · exact ⟨_, _, _, _, by rw [Turn.andThen_of_failed finished, first]⟩

theorem eq_of_mem_printed {text : String} {effect : Effect}
    (member : effect ∈ if text = "" then [] else [Effect.printed text]) :
    ∃ text, effect = .printed text := by
  split at member
  · cases member
  · exact ⟨text, List.mem_singleton.mp member⟩

theorem handle_printsOnly (player : Player Time) (now : Reading Time) (event : Event) :
    (player.handle now event).PrintsOnly := by
  by_cases backspace : event = .keyDown Keyboard.backspace
  · subst backspace
    intro effect member
    exact (List.mem_append.mp member).elim eq_of_mem_printed eq_of_mem_printed
  · obtain ⟨_, _, _, _, same⟩ := player.handle_of_ne_backspace now backspace
    rw [same]
    exact fun effect member => nomatch member

theorem handleAll_printsOnly (player : Player Time) (now : Reading Time) (events : List Event) :
    (player.handleAll now events).PrintsOnly := by
  induction events generalizing player with
  | nil => exact fun effect member => nomatch member
  | cons event rest ih => exact (player.handle_printsOnly now event).andThen (ih _)

theorem runFrame_printsOnly (player : Player Time) (now : Reading Time) :
    (player.runFrame now).PrintsOnly := by
  unfold runFrame
  split
  · exact fun effect member => nomatch member
  · dsimp only
    split <;> exact fun _ => eq_of_mem_printed

/-! ## Turns -/

theorem turn_finished_iff :
    (player.turn now events).failure = none ↔
      (player.handleAll now events).failure = none ∧
        ((player.handleAll now events).player.runFrame now).failure = none := by
  have awaited : player.await.failure = none := rfl
  have drawn : ∀ next : Player Time, (draw next).failure = none := fun _ => rfl
  rw [turn, Turn.andThen_finished, Turn.andThen_finished, Turn.andThen_finished,
    Turn.andThen_finished]
  simp only [awaited, drawn, updateTone_failure, and_true, true_and]
  rfl

theorem turn_eq (finished : (player.turn now events).failure = none) :
    let handled := player.handleAll now events
    let ran := handled.player.runFrame now
    let toned := updateTone ran.player
    player.turn now events =
      { player := toned.player
        effects := player.await.effects ++ handled.effects ++ ran.effects ++
          toned.effects ++ (draw toned.player).effects } := by
  obtain ⟨handled, ran⟩ := turn_finished_iff.mp finished
  have eventsTaken : (player.await.andThen fun next => next.handleAll now events) =
      { player := (player.handleAll now events).player
        effects := player.await.effects ++ (player.handleAll now events).effects } :=
    Turn.andThen_eq rfl handled
  have frameRun (effects : List Effect) :
      ({ player := (player.handleAll now events).player, effects } : Turn Time).andThen
          (fun next => next.runFrame now) =
        { player := ((player.handleAll now events).player.runFrame now).player
          effects := effects ++ ((player.handleAll now events).player.runFrame now).effects } :=
    Turn.andThen_eq rfl ran
  have toned (next : Player Time) (effects : List Effect) :
      ({ player := next, effects } : Turn Time).andThen updateTone =
        { player := (updateTone next).player, effects := effects ++ (updateTone next).effects } :=
    Turn.andThen_eq rfl (updateTone_failure next)
  rw [turn, eventsTaken, frameRun, toned]
  rfl

theorem turn_player (finished : (player.turn now events).failure = none) :
    ∃ beeping, (player.turn now events).player =
      { ((player.handleAll now events).player.runFrame now).player with beeping } := by
  obtain ⟨beeping, effects, toned, -⟩ :=
    ((player.handleAll now events).player.runFrame now).player.updateTone_eq
  exact ⟨beeping, by rw [turn_eq finished, toned]⟩

theorem turn_setup (finished : (player.turn now events).failure = none) :
    (player.turn now events).player.setup = player.setup := by
  obtain ⟨beeping, same⟩ := turn_player finished
  obtain ⟨_, _, ran⟩ := (player.handleAll now events).player.runFrame_player now
  obtain ⟨_, _, _, _, handled⟩ := player.handleAll_keeps now events
  rw [same, ran, handled]

theorem turn_player_of_unhandled (failed : (player.handleAll now events).failure ≠ none) :
    (player.turn now events).player = (player.handleAll now events).player := by
  have unhandled :
      (player.await.andThen fun next => next.handleAll now events).failure ≠ none :=
    fun finished => failed (Turn.andThen_finished.mp finished).2
  rw [turn, Turn.andThen_of_failed unhandled, Turn.andThen_of_failed unhandled,
    Turn.andThen_of_failed unhandled]
  exact Turn.andThen_player rfl

theorem noted_of_finished {Note : Type} (note? : Effect → Option Note)
    (finished : (player.turn now events).failure = none) :
    let handled := player.handleAll now events
    let ran := handled.player.runFrame now
    let toned := updateTone ran.player
    (player.turn now events).noted note? =
      player.await.noted note? ++ handled.noted note? ++ ran.noted note? ++
        toned.noted note? ++ (draw toned.player).noted note? := by
  rw [turn_eq finished]
  simp only [Turn.noted, List.filterMap_append]

theorem noted_of_failed {Note : Type} {note? : Effect → Option Note}
    (ignored : ∀ text, note? (.printed text) = none)
    (waiting : player.await.noted note? = [])
    (failed : (player.turn now events).failure ≠ none) :
    (player.turn now events).noted note? = [] := by
  have handled (next : Player Time) : (next.handleAll now events).noted note? = [] :=
    (next.handleAll_printsOnly now events).noted_eq_nil ignored
  have ran (next : Player Time) : (next.runFrame now).noted note? = [] :=
    (next.runFrame_printsOnly now).noted_eq_nil ignored
  have prepared : (player.prepare now events).failure ≠ none := fun finished =>
    failed (Turn.andThen_finished.mpr ⟨finished, rfl⟩)
  have unfinished : ((player.await.andThen fun next => next.handleAll now events).andThen
      fun next => next.runFrame now).failure ≠ none := fun finished =>
    prepared (Turn.andThen_finished.mpr ⟨finished, updateTone_failure _⟩)
  have same : player.turn now events = player.prepare now events := Turn.andThen_of_failed prepared
  rw [same, prepare, Turn.andThen_of_failed unfinished]
  simp only [Turn.noted_andThen, waiting, handled, ran, ite_self, List.append_nil]

/-! ## Sessions -/

/-- The session takes a turn for every entry of the script, none of which fails, and comes from
one player to another. -/
inductive Played (player : Player Time) :
    List (Reading Time × List Event) → Player Time → Prop where
  | start : Played player [] player
  | turn {script : List (Reading Time × List Event)} {before : Player Time}
      (played : Played player script before) (running : before.running) (now : Reading Time)
      (events : List Event) (finished : (before.turn now events).failure = none) :
      Played player (script ++ [(now, events)]) (before.turn now events).player

theorem Played.trans {middle last : Player Time} {first second : List (Reading Time × List Event)}
    (played : player.Played first middle) (more : middle.Played second last) :
    player.Played (first ++ second) last := by
  induction more with
  | start => rwa [List.append_nil]
  | turn _ running now events finished ih =>
      rw [← List.append_assoc]
      exact .turn ih running now events finished

theorem played_of_getElem?_turns (running : player.running)
    {script : List (Reading Time × List Event)} {index : Nat} {turn : Turn Time}
    (found : (player.turns script)[index]? = some turn) :
    ∃ now events before, script[index]? = some (now, events) ∧
      player.Played (script.take index) before ∧ before.running ∧
      turn = before.turn now events := by
  induction script generalizing player index with
  | nil => simp [turns] at found
  | cons entry rest ih =>
      obtain ⟨now, events⟩ := entry
      cases index with
      | zero =>
          cases found
          exact ⟨now, events, player, rfl, .start, running, rfl⟩
      | succ index =>
          rw [turns, List.getElem?_cons_succ] at found
          split at found
          · rename_i goesOn
            obtain ⟨stillRunning, finished⟩ := Bool.and_eq_true_iff.mp goesOn
            obtain ⟨later, laterEvents, before, entry, played, alsoRunning, same⟩ :=
              ih stillRunning found
            have first : player.Played [(now, events)] (player.turn now events).player :=
              Played.start.turn running now events (by simpa using finished)
            exact ⟨later, laterEvents, before, entry, first.trans played, alsoRunning, same⟩
          · simp at found

theorem Played.preserves (Holds : Player Time → Prop) {script : List (Reading Time × List Event)}
    {last : Player Time} (played : player.Played script last)
    (step : ∀ before now events, (now, events) ∈ script → Holds before →
      (before.turn now events).failure = none → Holds (before.turn now events).player)
    (start : Holds player) : Holds last := by
  induction played with
  | start => exact start
  | turn _ _ now events finished ih =>
      have before := ih fun before now events member =>
        step before now events (List.mem_append_left _ member)
      exact step _ now events (List.mem_append_right _ List.mem_cons_self) before finished

end Player
end Chip8
