import Chip8.Proofs.Machine.Faults
import Chip8.Proofs.Machine.Footprint
import Chip8.Proofs.Player.Opening

namespace Chip8

/-- Nothing but the timers and the keys has changed. -/
def Machine.StandsStill (before after : Machine) : Prop :=
  ∀ field, field ∉ [.delayTimer, .soundTimer, .keypad] → after.AgreesOn before field

namespace Machine
variable {start machine : Machine}

theorem StandsStill.refl (machine : Machine) : machine.StandsStill machine :=
  fun field _ => .refl machine field

theorem StandsStill.tickTimers_setKeys (still : start.StandsStill machine) (keypad : Keypad) :
    start.StandsStill (machine.tickTimers.setKeys keypad) := by
  intro field apart
  have same : (machine.tickTimers.setKeys keypad).AgreesOn machine field := by
    cases field with
    | delayTimer | soundTimer | keypad => simp at apart
    | _ => rfl
  exact same.trans (still field apart)

end Machine

theorem SessionLog.halted_ne_empty {Time : Type} [Clock Time] (log : SessionLog Time)
    (now : Reading Time) (reason : String) : log.halted now reason ≠ "" := by
  rw [halted_eq]
  simp

namespace Interpreter
variable {Time : Type} [Clock Time]

theorem reset_interpreter (interpreter : Interpreter Time) (now : Reading Time) :
    (interpreter.reset now).interpreter =
      ⟨interpreter.machine.reset, interpreter.log.map fun log => log.restart now⟩ := by
  unfold reset
  cases interpreter.log <;> rfl

theorem load_interpreter (interpreter : Interpreter Time) (now : Reading Time)
    (program : List UInt8) (source : Value) :
    ∃ memory, (interpreter.load now program source).interpreter =
      { interpreter with machine := { interpreter.machine with memory } } := by
  unfold load
  split
  · exact ⟨_, rfl⟩
  · rename_i machine fits
    refine ⟨machine.memory, ?_⟩
    rw [Machine.load_eq fits]
    dsimp only
    split
    · rfl
    · split <;> rfl

theorem loadRom_interpreter (interpreter : Interpreter Time) (now : Reading Time) (rom : Rom) :
    ∃ memory, (interpreter.loadRom now rom).interpreter =
      { interpreter with machine := { interpreter.machine with memory } } := by
  unfold loadRom loadFile
  split
  · exact ⟨_, rfl⟩
  · exact interpreter.load_interpreter now _ _

theorem settle_hasLog {interpreter : Interpreter Time} (present : interpreter.log.isSome)
    (now : Reading Time) (machine : Machine) (instructions : Value) (frames : Int) :
    (interpreter.settle now machine instructions frames).interpreter.log.isSome := by
  rw [settle_log, recordWork]
  split
  · rename_i absent
    rw [absent] at present
    cases present
  · split <;> rfl

theorem settle_of_isHalted {interpreter : Interpreter Time} {log : SessionLog Time}
    (present : interpreter.log = some log) (halted : interpreter.machine.isHalted)
    {machine : Machine} {cause : StackFault} {address : UInt16}
    (stopped : machine.halt? = some (.stack cause address)) (now : Reading Time)
    (instructions : Value) (frames : Int) :
    interpreter.settle now machine instructions frames =
      { interpreter := ⟨machine, some log⟩
        printed := log.halted now (cause.message address)
        problem := some (.halt (.stack cause address)) } := by
  simp [settle, recordWork, present, halted, stopped]

end Interpreter

namespace Player
variable {Time : Type} {player : Player Time} {now : Reading Time} {events : List Event}

structure InSession (player : Player Time) : Prop where
  log : player.interpreter.log.isSome
  fault : player.interpreter.machine.fault = none ∨
    ∃ cause, player.interpreter.machine.fault = some (.stack cause)
  counted : player.interpreter.machine.isHalted →
    ∃ count, Input.count (.number player.setup.instructionsPerFrame) = .ok count

structure Stopped (player : Player Time) (log : SessionLog Time) (cause : StackFault)
    (address : UInt16) : Prop where
  log : player.interpreter.log = some log
  halt : player.interpreter.machine.halt? = some (.stack cause address)
  counted : ∃ count, Input.count (.number player.setup.instructionsPerFrame) = .ok count

theorem InSession.stopped (inSession : player.InSession)
    (halted : player.interpreter.machine.isHalted) :
    ∃ log cause address, player.Stopped log cause address := by
  obtain ⟨log, present⟩ := Option.isSome_iff_exists.mp inSession.log
  rcases inSession.fault with running | ⟨cause, fault⟩
  · rw [Machine.isHalted, running] at halted
    cases halted
  · exact ⟨log, cause, _, present, by rw [Machine.halt?, fault], inSession.counted halted⟩

theorem Stopped.isHalted {log : SessionLog Time} {cause : StackFault} {address : UInt16}
    (stopped : player.Stopped log cause address) : player.interpreter.machine.isHalted :=
  Machine.isHalted_of_halt? stopped.halt

variable [Clock Time]

theorem restart_interpreter (player : Player Time) (now : Reading Time) :
    ∃ memory, (player.restart now).player.interpreter =
      ⟨{ player.interpreter.machine.reset with memory },
        player.interpreter.log.map fun log => log.restart now⟩ := by
  obtain ⟨memory, same⟩ :=
    (player.interpreter.reset now).interpreter.loadRom_interpreter now player.setup.rom
  refine ⟨memory, same.trans ?_⟩
  rw [Interpreter.reset_interpreter]

theorem InSession.handle (inSession : player.InSession) (now : Reading Time) (event : Event) :
    (player.handle now event).player.InSession := by
  by_cases backspace : event = .keyDown Keyboard.backspace
  · subst backspace
    obtain ⟨memory, restarted⟩ := player.restart_interpreter now
    have same : (player.handle now (.keyDown Keyboard.backspace)).player.interpreter =
        (player.restart now).player.interpreter := rfl
    rw [restarted] at same
    refine ⟨?_, ?_, ?_⟩
    · rw [same, Option.isSome_map]
      exact inSession.log
    · rw [same]
      exact .inl rfl
    · rw [same]
      exact fun halted => nomatch halted
  · obtain ⟨_, _, _, _, same⟩ := player.handle_of_ne_backspace now backspace
    rw [same]
    exact ⟨inSession.log, inSession.fault, inSession.counted⟩

theorem InSession.handleAll (inSession : player.InSession) (now : Reading Time)
    (events : List Event) : (player.handleAll now events).player.InSession := by
  induction events generalizing player with
  | nil => exact inSession
  | cons event rest ih =>
      have first := inSession.handle now event
      rw [Player.handleAll]
      by_cases finished : (player.handle now event).failure = none
      · rw [Turn.andThen_player finished]
        exact ih first
      · rwa [Turn.andThen_of_failed finished]

/-! ## Frames -/

theorem paused_of_isHalted (finished : (player.runFrame now).failure = none)
    (halted : (player.runFrame now).player.interpreter.machine.isHalted) :
    (player.runFrame now).player.paused := by
  cases paused : player.paused with
  | true => rwa [runFrame, if_pos paused]
  | false =>
      obtain ⟨count, -, same⟩ := runFrame_of_finished paused finished
      rw [same] at halted ⊢
      exact halted

theorem InSession.runFrame (inSession : player.InSession)
    (finished : (player.runFrame now).failure = none) :
    (player.runFrame now).player.InSession := by
  cases paused : player.paused with
  | true => rwa [Player.runFrame, if_pos paused]
  | false =>
      obtain ⟨count, counted, same⟩ := runFrame_of_finished paused finished
      have machine : (player.runFrame now).player.interpreter.machine =
          player.interpreter.machine.runFrame player.keypad count.toNat := by
        rw [same]
        exact Interpreter.settle_machine _ _ _ _ _
      refine ⟨?_, ?_, ?_⟩
      · rw [same]
        exact Interpreter.settle_hasLog inSession.log now _ _ _
      -- No instruction gives a machine a fault other than one of its stack.
      · rw [machine]
        rcases inSession.fault with running | ⟨cause, stopped⟩
        · exact (Machine.Path.start.runFrame player.keypad count.toNat).fault running
        · have halted : player.interpreter.machine.isHalted := by
            rw [Machine.isHalted, stopped]
            rfl
          rw [Machine.runFrame_of_isHalted halted]
          exact .inr ⟨cause, stopped⟩
      · rw [same]
        exact fun _ => ⟨count, counted⟩

/-! ## Turns -/

theorem InSession.turn (inSession : player.InSession)
    (finished : (player.turn now events).failure = none) :
    (player.turn now events).player.InSession := by
  obtain ⟨-, ran⟩ := turn_finished_iff.mp finished
  have after := (inSession.handleAll now events).runFrame ran
  obtain ⟨beeping, same⟩ := turn_player finished
  rw [same]
  exact ⟨after.log, after.fault, after.counted⟩

theorem turn_paused_of_isHalted (finished : (player.turn now events).failure = none)
    (halted : (player.turn now events).player.interpreter.machine.isHalted) :
    (player.turn now events).player.paused := by
  obtain ⟨-, ran⟩ := turn_finished_iff.mp finished
  obtain ⟨beeping, same⟩ := turn_player finished
  rw [same] at halted ⊢
  exact paused_of_isHalted ran halted

section Stopped
variable {log : SessionLog Time} {cause : StackFault} {address : UInt16}
  (stopped : player.Stopped log cause address)
include stopped

theorem Stopped.runFrame (now : Reading Time) :
    player.runFrame now =
      if player.paused then { player }
      else
        { player := {
            player with
            interpreter :=
              ⟨player.interpreter.machine.tickTimers.setKeys player.keypad, some log⟩
            paused := true }
          effects := [.printed (log.halted now (cause.message address))] } := by
  cases paused : player.paused with
  | true => rw [Player.runFrame, if_pos paused, if_pos rfl]
  | false =>
      obtain ⟨count, counted⟩ := stopped.counted
      rw [Player.runFrame, if_neg (by simp [paused]), if_neg Bool.false_ne_true,
        Interpreter.runFrame_eq _ _ _ counted, Machine.runFrame_of_isHalted stopped.isHalted]
      have stillStopped : (player.interpreter.machine.tickTimers.setKeys player.keypad).halt? =
          some (.stack cause address) := stopped.halt
      rw [Interpreter.settle_of_isHalted stopped.log stopped.isHalted stillStopped]
      have logged := log.halted_ne_empty now (cause.message address)
      exact congrArg (fun effects => ({ player := _, effects } : Turn Time)) (if_neg logged)

theorem Stopped.handleAll (now : Reading Time) (others : ∀ event ∈ events,
    event ≠ .keyDown Keyboard.backspace) :
    (player.handleAll now events).player.Stopped log cause address := by
  obtain ⟨_, _, _, _, same⟩ := player.handleAll_of_ne_backspace now others
  rw [same]
  exact ⟨stopped.log, stopped.halt, stopped.counted⟩

theorem Stopped.turn (now : Reading Time)
    (others : ∀ event ∈ events, event ≠ .keyDown Keyboard.backspace) :
    let handled := player.handleAll now events
    let next := player.turn now events
    handled.player.interpreter = player.interpreter ∧
      (next.failure = none ↔ handled.failure = none) ∧
      (next.failure ≠ none → next.player.interpreter = player.interpreter) ∧
      (next.failure = none → next.player.paused ∧
        if handled.player.paused then
          next.player.interpreter = player.interpreter ∧ next.noted Effect.text? = []
        else
          next.player.interpreter =
              ⟨player.interpreter.machine.tickTimers.setKeys handled.player.keypad, some log⟩ ∧
            next.noted Effect.text? = [log.halted now (cause.message address)]) := by
  intro handled next
  obtain ⟨keypad, running, paused, failure, same⟩ := player.handleAll_of_ne_backspace now others
  have interpreter : handled.player.interpreter = player.interpreter :=
    congrArg (fun turn : Turn Time => turn.player.interpreter) same
  have ran := (stopped.handleAll now others).runFrame now
  have ranFinished : (handled.player.runFrame now).failure = none := by
    rw [ran]
    split <;> rfl
  have finishedIff : next.failure = none ↔ handled.failure = none :=
    turn_finished_iff.trans (and_iff_left ranFinished)
  refine ⟨interpreter, finishedIff, ?_, ?_⟩
  · intro failed
    rw [turn_player_of_unhandled (mt finishedIff.mpr failed), interpreter]
  · intro finished
    obtain ⟨beeping, nextPlayer⟩ := turn_player finished
    have texts : next.noted Effect.text? =
        (handled.player.runFrame now).noted Effect.text? := by
      rw [noted_of_finished Effect.text? finished, draw_noted_eq_nil _ (fun _ => rfl) rfl,
        updateTone_noted_eq_nil _ rfl rfl, same]
      simp [Turn.noted, await, Effect.text?, handled, same]
    rw [texts, nextPlayer, ran]
    split
    · rename_i paused
      exact ⟨paused, interpreter, rfl⟩
    · rw [interpreter]
      exact ⟨rfl, rfl, rfl⟩

end Stopped

/-! ## Sessions -/

theorem inSession_of_ready {host : Host} {settings : Settings} {rom : Rom} {interval : Time}
    {terminal : Bool} {now : Reading Time} {player : Player Time} {effects : List Effect}
    (ready : start host settings rom interval terminal now = .ready player effects) :
    player.InSession ∧ player.running := by
  obtain ⟨log, setup, machine, -, -, loaded, rfl, -⟩ := eq_of_ready ready
  obtain ⟨program, -, fits⟩ := of_bind_ok loaded
  have runs : machine.fault = none := by rw [Machine.load_eq fits]; rfl
  refine ⟨⟨rfl, .inl runs, fun halted => ?_⟩, rfl⟩
  rw [Machine.isHalted, runs] at halted
  cases halted

theorem inSession_of_mem_turns {script : List (Reading Time × List Event)} {turn : Turn Time}
    (inSession : player.InSession) (running : player.running) (member : turn ∈ player.turns script)
    (finished : turn.failure = none) :
    turn.player.InSession ∧
      (turn.player.interpreter.machine.isHalted → turn.player.paused) := by
  obtain ⟨index, found⟩ := List.mem_iff_getElem?.mp member
  obtain ⟨now, events, before, -, played, -, rfl⟩ := played_of_getElem?_turns running found
  have beforeInSession : before.InSession :=
    played.preserves InSession (fun _ _ _ _ inSession finished => inSession.turn finished) inSession
  exact ⟨beforeInSession.turn finished, turn_paused_of_isHalted finished⟩

structure Rests (start player : Player Time) (log : SessionLog Time) (cause : StackFault)
    (address : UInt16) : Prop where
  stopped : player.Stopped log cause address
  paused : player.paused
  machine : start.interpreter.machine.StandsStill player.interpreter.machine

theorem Rests.turn {start : Player Time} {log : SessionLog Time} {cause : StackFault}
    {address : UInt16} (rests : start.Rests player log cause address)
    (others : ∀ event ∈ events, event ≠ .keyDown Keyboard.backspace)
    (finished : (player.turn now events).failure = none) :
    start.Rests (player.turn now events).player log cause address := by
  obtain ⟨-, -, -, after⟩ := rests.stopped.turn now others
  obtain ⟨paused, after⟩ := after finished
  have counted := rests.stopped.counted
  rw [← turn_setup finished] at counted
  split at after
  · obtain ⟨same, -⟩ := after
    refine ⟨⟨?_, ?_, counted⟩, paused, ?_⟩
    · rw [same]
      exact rests.stopped.log
    · rw [same]
      exact rests.stopped.halt
    · rw [same]
      exact rests.machine
  · obtain ⟨same, -⟩ := after
    refine ⟨⟨by rw [same], ?_, counted⟩, paused, ?_⟩
    · rw [same]
      exact rests.stopped.halt
    · rw [same]
      exact rests.machine.tickTimers_setKeys _

/-- Once a turn has left a stopped machine, the player is paused at the end of every turn, and until
backspace is pressed nothing changes in the machine but timers and keys. A turn fails only through
its events. It does nothing to the machine, unless its events leave the player without pause: then
it ticks the timers once, hands over the keys and logs the same fault once more. -/
theorem stopped_until_backspace {host : Host} {settings : Settings} {rom : Rom} {interval : Time}
    {terminal : Bool} {now : Reading Time} {player : Player Time} {effects : List Effect}
    (ready : start host settings rom interval terminal now = .ready player effects)
    {script : List (Reading Time × List Event)} {turn : Turn Time}
    (member : turn ∈ player.turns script) (finished : turn.failure = none)
    (halted : turn.player.interpreter.machine.isHalted) :
    turn.player.paused ∧ ∃ log cause address,
      turn.player.interpreter.log = some log ∧
      turn.player.interpreter.machine.halt? = some (.stack cause address) ∧
      ∀ (later : List (Reading Time × List Event)) (last : Player Time),
        turn.player.Played later last →
        (∀ entry ∈ later, ∀ event ∈ entry.2, event ≠ .keyDown Keyboard.backspace) →
        last.paused ∧
        turn.player.interpreter.machine.StandsStill last.interpreter.machine ∧
        ∀ (time : Reading Time) (events : List Event),
          (∀ event ∈ events, event ≠ .keyDown Keyboard.backspace) →
          let handled := last.handleAll time events
          let next := last.turn time events
          handled.player.interpreter = last.interpreter ∧
          (next.failure = none ↔ handled.failure = none) ∧
          (next.failure ≠ none → next.player.interpreter = last.interpreter) ∧
          (next.failure = none → next.player.paused ∧
            if handled.player.paused then
              next.player.interpreter = last.interpreter ∧ next.noted Effect.text? = []
            else
              next.player.interpreter =
                  ⟨last.interpreter.machine.tickTimers.setKeys handled.player.keypad, some log⟩ ∧
                next.noted Effect.text? = [log.halted time (cause.message address)]) := by
  obtain ⟨opened, running⟩ := inSession_of_ready ready
  obtain ⟨inSession, pauses⟩ := inSession_of_mem_turns opened running member finished
  obtain ⟨log, cause, address, stopped⟩ := inSession.stopped halted
  refine ⟨pauses halted, log, cause, address, stopped.log, stopped.halt, ?_⟩
  intro later last played others
  have atRest : turn.player.Rests turn.player log cause address :=
    ⟨stopped, pauses halted, .refl _⟩
  have rests : turn.player.Rests last log cause address := by
    refine played.preserves (turn.player.Rests · log cause address) ?_ atRest
    intro before now events inside rests finished
    exact rests.turn (others _ inside) finished
  exact ⟨rests.paused, rests.machine, fun time events apart => rests.stopped.turn time apart⟩

theorem stopped_until_backspace_of_lone_return :
    let settings : Settings := {
      instructionsPerFrame := .whole 3, framesPerSecond := .whole 60, scale := .whole 10
      colorScheme := "classic", beepFrequency := .real 440.0, volume := .real 0.2
      keyMap := [("q", .whole 5)], logLevel := "INFO" }
    let rom : Rom := ⟨"return.ch8", .ok [0x00, 0xEE]⟩
    let later : List (Reading Float × List Event) :=
      [(.both 0.2, [.keyDown 112]), (.both 0.3, [.keyDown 113])]
    let pauses : List Event := [.keyDown 112, .keyDown 112, .keyDown 112]
    ∃ player effects last log,
      start .desktop settings rom (5.0 : Float) false (.both 0.0) = .ready player effects ∧
      (player.turn (.both 0.1) []).player.Played later last ∧
      last.paused ∧
      (player.turn (.both 0.1) []).player.interpreter.machine.StandsStill last.interpreter.machine ∧
      (last.turn (.both 0.4) pauses).player.paused ∧
      (last.turn (.both 0.4) pauses).player.interpreter =
        ⟨last.interpreter.machine.tickTimers.setKeys (Keypad.released.set 5 true), some log⟩ := by
  intro settings rom later pauses
  have goes :
      (match start .desktop settings rom (5.0 : Float) false (.both 0.0) with
      | .ready player _ =>
          let first := player.turn (.both 0.1) []
          let second := first.player.turn (.both 0.2) [.keyDown 112]
          let third := second.player.turn (.both 0.3) [.keyDown 113]
          let handled := third.player.handleAll (.both 0.4) pauses
          first.failure.isNone && first.player.interpreter.machine.isHalted &&
            first.player.running && second.failure.isNone && second.player.running &&
            third.failure.isNone && handled.failure.isNone && !handled.player.paused &&
            handled.player.keypad = Keypad.released.set 5 true
      | .failed .. | .unloadable _ => false) = true := by decide +kernel
  cases ready : start .desktop settings rom (5.0 : Float) false (.both 0.0) with
  | failed effects error | unloadable effects =>
      rw [ready] at goes
      cases goes
  | ready player effects =>
      rw [ready] at goes
      simp only [Bool.and_eq_true, Option.isNone_iff_eq_none, Bool.not_eq_true', decide_eq_true_eq]
        at goes
      obtain ⟨⟨⟨⟨⟨⟨⟨⟨first, halted⟩, running⟩, second⟩, alsoRunning⟩, third⟩, handled⟩, unpaused⟩,
        keypad⟩ := goes
      have played : (player.turn (.both 0.1) []).player.Played later _ :=
        (Played.start.turn running (.both 0.2) [.keyDown 112] second).turn alsoRunning (.both 0.3)
          [.keyDown 113] third
      have member : player.turn (.both 0.1) [] ∈ player.turns [(.both 0.1, [])] :=
        List.mem_cons_self
      obtain ⟨-, log, cause, address, -, -, rests⟩ :=
        stopped_until_backspace ready member first halted
      obtain ⟨paused, still, next⟩ := rests later _ played (by decide)
      obtain ⟨-, finishedIff, -, done⟩ := next (.both 0.4) pauses (by decide)
      obtain ⟨pausedAgain, done⟩ := done (finishedIff.mpr handled)
      rw [if_neg (by simp [unpaused]), keypad] at done
      exact ⟨player, effects, _, log, rfl, played, paused, still, pausedAgain, done.1⟩

end Player
end Chip8
