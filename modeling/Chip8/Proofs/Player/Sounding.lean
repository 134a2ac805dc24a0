import Mathlib.Data.List.Chain
import Chip8.Proofs.Player.Opening

namespace Chip8

def Effect.leaveTone (effects : List Effect) : Prop :=
  (effects.filterMap Effect.tone?).getLast? = some true

namespace Player
variable {Time : Type} {player : Player Time} {now : Reading Time} {events : List Event}

def sounds (player : Player Time) : Bool := player.interpreter.machine.soundTimer != 0

theorem updateTone_player (player : Player Time) :
    (updateTone player).player = { player with beeping := player.sounds } := by
  obtain ⟨setup, interpreter, keypad, running, paused, beeping⟩ := player
  unfold updateTone sounds
  cases interpreter.machine.soundTimer != 0 <;> cases beeping <;> rfl

theorem updateTone_noted (player : Player Time) :
    (updateTone player).noted Effect.tone? =
      if player.beeping = player.sounds then [] else [player.sounds] := by
  obtain ⟨setup, interpreter, keypad, running, paused, beeping⟩ := player
  unfold updateTone sounds
  cases interpreter.machine.soundTimer != 0 <;> cases beeping <;> rfl

variable [Clock Time]

theorem runFrame_beeping (player : Player Time) (now : Reading Time) :
    (player.runFrame now).player.beeping = player.beeping := by
  obtain ⟨_, _, same⟩ := player.runFrame_player now
  rw [same]

theorem handleAll_beeping (player : Player Time) (now : Reading Time) (events : List Event) :
    (player.handleAll now events).player.beeping = player.beeping := by
  obtain ⟨_, _, _, _, same⟩ := player.handleAll_keeps now events
  rw [same]

theorem turn_tone (finished : (player.turn now events).failure = none) :
    let next := (player.turn now events).player
    next.beeping = next.sounds ∧
      (player.turn now events).noted Effect.tone? =
        if player.beeping = next.beeping then [] else [next.beeping] := by
  have handled : (player.handleAll now events).noted Effect.tone? = [] :=
    (player.handleAll_printsOnly now events).noted_eq_nil fun _ => rfl
  have ran : ((player.handleAll now events).player.runFrame now).noted Effect.tone? = [] :=
    (runFrame_printsOnly _ now).noted_eq_nil fun _ => rfl
  have same : (player.turn now events).player =
      (updateTone ((player.handleAll now events).player.runFrame now).player).player := by
    rw [turn_eq finished]
  dsimp only
  rw [same, noted_of_finished Effect.tone? finished, handled, ran,
    draw_noted_eq_nil _ (fun _ => rfl) rfl, updateTone_noted, updateTone_player, runFrame_beeping,
    handleAll_beeping]
  exact ⟨rfl, List.append_nil _⟩

theorem noted_tone_of_failed (failed : (player.turn now events).failure ≠ none) :
    (player.turn now events).noted Effect.tone? = [] :=
  noted_of_failed (fun _ => rfl) rfl failed

theorem turns_tone_isChain (player : Player Time) (script : List (Reading Time × List Event)) :
    (player.beeping :: (player.turns script).flatMap (Turn.noted Effect.tone?)).IsChain
      (· ≠ ·) := by
  induction script generalizing player with
  | nil => exact .singleton _
  | cons entry rest ih =>
      obtain ⟨now, events⟩ := entry
      rw [turns, List.flatMap_cons]
      by_cases finished : (player.turn now events).failure = none
      · obtain ⟨-, calls⟩ := turn_tone finished
        -- The later calls differ from the tone that this turn leaves, whether or not it calls.
        have later : ((player.turn now events).player.beeping ::
            (if (player.turn now events).player.running &&
              (player.turn now events).failure.isNone then
                (player.turn now events).player.turns rest
              else []).flatMap (Turn.noted Effect.tone?)).IsChain (· ≠ ·) := by
          split
          · exact ih _
          · exact .singleton _
        rw [calls]
        split
        · rename_i same
          rw [same]
          exact later
        · rename_i changed
          exact .cons_cons changed later
      · rw [noted_tone_of_failed finished]
        simp [finished]

theorem getLastD_tone_turns {player : Player Time} {script : List (Reading Time × List Event)}
    {index : Nat} {turn : Turn Time} (found : (player.turns script)[index]? = some turn)
    (finished : turn.failure = none) :
    (((player.turns script).take (index + 1)).flatMap (Turn.noted Effect.tone?)).getLastD
      player.beeping = turn.player.sounds := by
  induction script generalizing player index with
  | nil => simp [turns] at found
  | cons entry rest ih =>
      obtain ⟨now, events⟩ := entry
      have called (firstFinished : (player.turn now events).failure = none) :
          ((player.turn now events).noted Effect.tone?).getLastD player.beeping =
            (player.turn now events).player.beeping := by
        rw [(turn_tone firstFinished).2]
        split
        · assumption
        · rfl
      rw [turns, List.take_succ_cons, List.flatMap_cons]
      cases index with
      | zero =>
          cases found
          rw [List.take_zero, List.flatMap_nil, List.append_nil, called finished]
          exact (turn_tone finished).1
      | succ index =>
          rw [turns, List.getElem?_cons_succ] at found
          split at found
          · rename_i goesOn
            have firstFinished : (player.turn now events).failure = none := by
              simpa using (Bool.and_eq_true_iff.mp goesOn).2
            rw [if_pos goesOn, ← ih found, ← called firstFinished]
            simp [List.getLastD_eq_getLast?]
          · simp at found

/-- Over a session the tone is started and stopped by turns, at most once in a turn, and at the end
of every turn it plays exactly if the sound timer is not zero. -/
theorem tone_follows_sound_timer {host : Host} {settings : Settings} {rom : Rom} {interval : Time}
    {terminal : Bool} {now : Reading Time} {player : Player Time} {effects : List Effect}
    (ready : start host settings rom interval terminal now = .ready player effects)
    (script : List (Reading Time × List Event)) :
    let turns := player.turns script
    (∀ (index : Nat) (turn : Turn Time), turns[index]? = some turn → turn.failure = none →
      (Effect.leaveTone (effects ++ (turns.take (index + 1)).flatMap Turn.effects) ↔
        turn.player.interpreter.machine.soundTimer ≠ 0)) ∧
    (∀ turn ∈ turns, (turn.effects.filterMap Effect.tone?).length ≤ 1) ∧
    ∀ (last : Player Time) (ending : Reading Time),
      let calls :=
        (effects ++ turns.flatMap Turn.effects ++ last.finish ending).filterMap Effect.tone?
      calls.head? ≠ some false ∧ calls.IsChain (· ≠ ·) := by
  obtain ⟨log, setup, machine, -, -, -, opened, opening⟩ := eq_of_ready ready
  have silent : player.beeping = false := by rw [opened]
  have before : effects.filterMap Effect.tone? = [] := List.filterMap_eq_nil_iff.mpr opening
  refine ⟨?_, ?_, ?_⟩
  · intro index turn found finished
    have last := getLastD_tone_turns found finished
    rw [silent, List.getLastD_eq_getLast?] at last
    have calls : (effects ++ ((player.turns script).take (index + 1)).flatMap
        Turn.effects).filterMap Effect.tone? =
        ((player.turns script).take (index + 1)).flatMap (Turn.noted Effect.tone?) := by
      rw [List.filterMap_append, before, List.nil_append, List.filterMap_flatMap]
      rfl
    have plays : turn.player.sounds ↔ turn.player.interpreter.machine.soundTimer ≠ 0 := bne_iff_ne
    rw [Effect.leaveTone, calls, ← plays, ← last]
    cases ((player.turns script).take (index + 1)).flatMap (Turn.noted Effect.tone?) |>.getLast?
      <;> simp
  · intro turn member
    obtain ⟨found, entry, -, rfl⟩ := mem_turns member
    by_cases finished : (found.turn entry.1 entry.2).failure = none
    · have calls : (found.turn entry.1 entry.2).effects.filterMap Effect.tone? = _ :=
        (turn_tone finished).2
      rw [calls]
      split <;> simp
    · have calls : (found.turn entry.1 entry.2).effects.filterMap Effect.tone? = [] :=
        noted_tone_of_failed finished
      rw [calls]
      exact Nat.zero_le 1
  · intro last ending
    have after : (last.finish ending).filterMap Effect.tone? = [] := by
      refine List.filterMap_eq_nil_iff.mpr fun effect member => ?_
      rcases List.mem_append.mp member with text | closing
      · obtain ⟨text, rfl⟩ := eq_of_mem_printed text
        rfl
      · rw [List.mem_singleton.mp closing]
        rfl
    have alternate := player.turns_tone_isChain script
    rw [silent, List.isChain_cons] at alternate
    dsimp only
    rw [List.filterMap_append, List.filterMap_append, before, after, List.nil_append,
      List.append_nil, List.filterMap_flatMap]
    exact ⟨fun first => absurd rfl (alternate.1 false first), alternate.2⟩

theorem tone_follows_sound_timer_of_short_beep :
    let settings : Settings := {
      instructionsPerFrame := .whole 3, framesPerSecond := .whole 60, scale := .whole 10
      colorScheme := "classic", beepFrequency := .real 440.0, volume := .real 0.2
      keyMap := [], logLevel := "INFO" }
    let rom : Rom := ⟨"beep.ch8", .ok [0x60, 0x02, 0xF0, 0x18, 0x12, 0x04]⟩
    let script : List (Reading Float × List Event) :=
      [(.both 0.1, []), (.both 0.2, []), (.both 0.3, []), (.both 0.4, [.keyDown 8]),
        (.both 0.5, [.quit])]
    ∃ player effects,
      start .desktop settings rom (5.0 : Float) false (.both 0.0) = .ready player effects ∧
      Effect.leaveTone (effects ++ ((player.turns script).take 2).flatMap Turn.effects) ∧
      ¬ Effect.leaveTone (effects ++ ((player.turns script).take 3).flatMap Turn.effects) ∧
      Effect.leaveTone (effects ++ ((player.turns script).take 4).flatMap Turn.effects) := by
  intro settings rom script
  have timers :
      (match start .desktop settings rom (5.0 : Float) false (.both 0.0) with
      | .ready player _ => (player.turns script).map fun turn =>
          (turn.failure.isNone, turn.player.interpreter.machine.soundTimer)
      | .failed .. | .unloadable _ => []) =
        [(true, 2), (true, 1), (true, 0), (true, 2), (true, 1)] := by decide +kernel
  cases ready : start .desktop settings rom (5.0 : Float) false (.both 0.0) with
  | failed effects error | unloadable effects =>
      rw [ready] at timers
      cases timers
  | ready player effects =>
      rw [ready] at timers
      have leaves (index : Nat) (value : UInt8)
          (known : [(true, 2), (true, 1), (true, 0), (true, 2), (true, 1)][index]? =
            some (true, value)) :
          Effect.leaveTone (effects ++ ((player.turns script).take (index + 1)).flatMap
            Turn.effects) ↔ value ≠ 0 := by
        rw [← timers, List.getElem?_map] at known
        obtain ⟨turn, found, same⟩ := Option.map_eq_some_iff.mp known
        obtain ⟨finished, shown⟩ := Prod.mk.inj same
        rw [← shown]
        exact (tone_follows_sound_timer ready script).1 index turn found (by simpa using finished)
      exact ⟨player, effects, rfl, (leaves 1 1 rfl).mpr (by decide),
        fun plays => (leaves 2 0 rfl).mp plays rfl, (leaves 3 2 rfl).mpr (by decide)⟩

end Player
end Chip8
