import Chip8.Proofs.Player.Finishing
import Chip8.Proofs.Player.Opening

namespace Chip8

def KeySelection.contains (key : Key) : KeySelection → Bool
  | .none => false
  | .one index => Keypad.key? index = some key
  | .all => true

namespace Keyboard

/-- Pressing one of these keys means something to the session, and presses nothing on the keypad. -/
def isReserved (code : Nat) : Bool := code == escape || code == pause || code == backspace

def isBound (keyMap : Bindings Nat Number) (code : Nat) (key : Key) : Bool :=
  ((keyMap.lookup code).bind selection?).any (KeySelection.contains key)

end Keyboard

namespace Event

def press? (code : Nat) : Event → Option Bool
  | .keyDown found => if found = code then some true else none
  | .keyUp found => if found = code then some false else none
  | .quit | .other => none

def setting? (keyMap : Bindings Nat Number) (key : Key) : Event → Option Bool
  | .keyDown code =>
      if !Keyboard.isReserved code && Keyboard.isBound keyMap code key then some true else none
  | .keyUp code => if Keyboard.isBound keyMap code key then some false else none
  | .quit | .other => none

def sinceBackspace (history : List Event) : List Event :=
  history.reverse.takeWhile (· ≠ .keyDown Keyboard.backspace)

/-- What the latest event since backspace says that says anything. -/
def latest? (note? : Event → Option Bool) (history : List Event) : Option Bool :=
  (sinceBackspace history).findSome? note?

theorem latest?_concat (note? : Event → Option Bool) (history : List Event) (event : Event) :
    latest? note? (history ++ [event]) =
      if event = .keyDown Keyboard.backspace then none
      else (note? event).or (latest? note? history) := by
  rw [latest?, sinceBackspace, List.reverse_concat, List.takeWhile_cons]
  by_cases backspace : event = .keyDown Keyboard.backspace
  · simp [backspace]
  · rw [if_neg backspace, if_pos (by simpa using backspace), List.findSome?_cons]
    cases note? event <;> rfl

end Event

/-- A keyboard key that is bound to the key of the keypad is held, and is not reserved. -/
def Keyboard.HoldsDown (keyMap : Bindings Nat Number) (history : List Event) (key : Key) : Prop :=
  ∃ code, isReserved code = false ∧ isBound keyMap code key ∧
    Event.latest? (Event.press? code) history = some true

namespace Event
variable {keyMap : Bindings Nat Number} {key : Key}

theorem setting?_of_press? {code : Nat} {held : Bool} {event : Event}
    (unreserved : Keyboard.isReserved code = false) (bound : Keyboard.isBound keyMap code key)
    (pressed : event.press? code = some held) : event.setting? keyMap key = some held := by
  cases event with
  | keyDown other | keyUp other =>
      rw [press?] at pressed
      split at pressed
      · rename_i same
        rw [setting?, same, bound, ← pressed]
        simp [unreserved]
      · cases pressed
  | quit | other => cases pressed

theorem holdsDown_of_findSome? {events : List Event}
    (held : events.findSome? (setting? keyMap key) = some true) :
    ∃ code, Keyboard.isReserved code = false ∧ Keyboard.isBound keyMap code key ∧
      events.findSome? (press? code) = some true := by
  induction events with
  | nil => cases held
  | cons event rest ih =>
      rw [List.findSome?_cons] at held
      cases set : event.setting? keyMap key with
      | none =>
          rw [set] at held
          obtain ⟨code, unreserved, bound, down⟩ := ih held
          refine ⟨code, unreserved, bound, ?_⟩
          -- The event does nothing to the key of the keypad, so it is no event of the key found.
          cases pressed : event.press? code with
          | none => rw [List.findSome?_cons, pressed, down]
          | some held =>
              rw [setting?_of_press? unreserved bound pressed] at set
              cases set
      | some pressed =>
          rw [set] at held
          cases held
          cases event with
          | keyDown code =>
              rw [setting?] at set
              split at set
              · rename_i both
                obtain ⟨unreserved, bound⟩ := Bool.and_eq_true_iff.mp both
                refine ⟨code, by simpa using unreserved, bound, ?_⟩
                simp [press?]
              · cases set
          | keyUp code =>
              rw [setting?] at set
              split at set <;> cases set
          | quit | other => cases set

theorem setting?_eq_press? {code : Nat} (unreserved : Keyboard.isReserved code = false)
    (bound : Keyboard.isBound keyMap code key)
    (only : ∀ other, Keyboard.isBound keyMap other key → other = code) :
    setting? keyMap key = press? code := by
  funext event
  cases pressed : event.press? code with
  | some held => exact setting?_of_press? unreserved bound pressed
  | none =>
      cases event with
      | keyDown other | keyUp other =>
          have apart : other ≠ code := by
            rintro rfl
            simp [press?] at pressed
          have unbound : Keyboard.isBound keyMap other key = false :=
            Bool.eq_false_iff.mpr fun bound => apart (only other bound)
          simp [setting?, unbound]
      | quit | other => rfl

end Event

namespace Keypad
variable {keyMap : Bindings Nat Number} {history : List Event} {key : Key}

theorem isHeld_setSelected (keypad : Keypad) (selection : KeySelection) (held : Bool) (key : Key) :
    (keypad.setSelected selection held).isHeld key =
      if selection.contains key then held else keypad.isHeld key := by
  cases selection with
  | none => rfl
  | one index =>
      rw [setSelected, setAt, KeySelection.contains]
      cases key? index with
      | none => simp
      | some found => simp [isHeld_set, eq_comm]
  | all => simp [setSelected, isHeld, KeySelection.contains]

theorem isHeld_press (keypad : Keypad) (keyMap : Bindings Nat Number) (code : Nat) (held : Bool)
    (key : Key) :
    (keypad.press keyMap code held).isHeld key =
      if Keyboard.isBound keyMap code key then held else keypad.isHeld key := by
  rw [press, Keyboard.isBound]
  cases (keyMap.lookup code).bind Keyboard.selection? with
  | none => rfl
  | some selection => exact keypad.isHeld_setSelected selection held key

def Follows (keypad : Keypad) (keyMap : Bindings Nat Number) (history : List Event) : Prop :=
  ∀ key, keypad.isHeld key = (Event.latest? (Event.setting? keyMap key) history).getD false

theorem Follows.isHeld_iff {keypad : Keypad} (follows : keypad.Follows keyMap history) :
    keypad.isHeld key ↔ Event.latest? (Event.setting? keyMap key) history = some true := by
  rw [follows key]
  cases Event.latest? (Event.setting? keyMap key) history <;> simp

theorem Follows.holdsDown {keypad : Keypad} (follows : keypad.Follows keyMap history)
    (held : keypad.isHeld key) : Keyboard.HoldsDown keyMap history key :=
  Event.holdsDown_of_findSome? (follows.isHeld_iff.mp held)

theorem Follows.isHeld_of_holdsDown {keypad : Keypad} (follows : keypad.Follows keyMap history)
    (alone : ∀ code other, Keyboard.isBound keyMap code key → Keyboard.isBound keyMap other key →
      code = other)
    (down : Keyboard.HoldsDown keyMap history key) : keypad.isHeld key := by
  obtain ⟨code, unreserved, bound, down⟩ := down
  rw [follows.isHeld_iff, Event.setting?_eq_press? unreserved bound fun other otherBound =>
    alone other code otherBound bound]
  exact down

end Keypad

namespace Player
variable {Time : Type} [Clock Time] {player : Player Time} {now : Reading Time}
  {events history : List Event}

theorem handle_isHeld (player : Player Time) (now : Reading Time) (event : Event) (key : Key) :
    (player.handle now event).player.keypad.isHeld key =
      if event = .keyDown Keyboard.backspace then false
      else (event.setting? player.setup.keyMap key).getD (player.keypad.isHeld key) := by
  cases event with
  | quit | other => rfl
  | keyUp code =>
      obtain ⟨failure, same⟩ := player.setKey_eq code false
      have keypad : (player.handle now (.keyUp code)).player.keypad =
          player.keypad.press player.setup.keyMap code false :=
        congrArg (fun turn => turn.player.keypad) same
      rw [keypad, Keypad.isHeld_press, Event.setting?]
      split <;> simp
  | keyDown code =>
      obtain ⟨failure, same⟩ := player.setKey_eq code true
      have backspaceIff : Event.keyDown code = .keyDown Keyboard.backspace ↔
          code = Keyboard.backspace := by simp
      simp only [handle, same, backspaceIff, Event.setting?, Keyboard.isReserved]
      by_cases escape : code = Keyboard.escape
      · subst escape
        rfl
      by_cases pause : code = Keyboard.pause
      · subst pause
        rfl
      by_cases backspace : code = Keyboard.backspace
      · subst backspace
        exact Vector.getElem_replicate key.isLt
      · cases bound : Keyboard.isBound player.setup.keyMap code key <;>
          simp [escape, pause, backspace, Keypad.isHeld_press, bound]

theorem follows_handle (follows : player.keypad.Follows player.setup.keyMap history)
    (now : Reading Time) (event : Event) :
    (player.handle now event).player.keypad.Follows player.setup.keyMap (history ++ [event]) := by
  intro key
  rw [handle_isHeld, Event.latest?_concat, follows key]
  split
  · rfl
  · cases event.setting? player.setup.keyMap key <;> rfl

theorem follows_handleAll (follows : player.keypad.Follows player.setup.keyMap history)
    (finished : (player.handleAll now events).failure = none) :
    (player.handleAll now events).player.keypad.Follows player.setup.keyMap
      (history ++ events) := by
  induction events generalizing player history with
  | nil => rwa [List.append_nil]
  | cons event rest ih =>
      have first := follows_handle follows now event
      obtain ⟨firstFinished, restFinished⟩ := Turn.andThen_finished.mp finished
      rw [← handle_setup player now event] at first
      have later := ih first restFinished
      rw [handleAll, Turn.andThen_player firstFinished, ← handle_setup player now event,
        List.append_cons]
      exact later

theorem turn_keypad (finished : (player.turn now events).failure = none) :
    (player.turn now events).player.keypad = (player.handleAll now events).player.keypad := by
  obtain ⟨beeping, same⟩ := turn_player finished
  obtain ⟨_, _, ran⟩ := (player.handleAll now events).player.runFrame_player now
  rw [same, ran]

theorem follows_of_played {script : List (Reading Time × List Event)} {last : Player Time}
    (played : player.Played script last) (released : player.keypad = .released) :
    last.setup = player.setup ∧
      last.keypad.Follows player.setup.keyMap (script.flatMap Prod.snd) := by
  induction played with
  | start =>
      refine ⟨rfl, fun key => ?_⟩
      rw [released]
      exact Vector.getElem_replicate key.isLt
  | turn _ _ now events finished ih =>
      obtain ⟨setup, follows⟩ := ih
      obtain ⟨handled, -⟩ := turn_finished_iff.mp finished
      rw [← setup] at follows ⊢
      refine ⟨turn_setup finished, ?_⟩
      rw [turn_keypad finished, List.flatMap_append, List.flatMap_singleton]
      exact follows_handleAll follows handled

/-- At any moment of a session, between two events of a turn too, a key of the keypad is held
exactly if the latest event since backspace that pressed or released a key bound to it pressed
one. -/
theorem keypad_follows_events {host : Host} {settings : Settings} {rom : Rom} {interval : Time}
    {terminal : Bool} {now : Reading Time} {player : Player Time} {effects : List Effect}
    (ready : start host settings rom interval terminal now = .ready player effects)
    {script : List (Reading Time × List Event)} {before : Player Time}
    (played : player.Played script before) (time : Reading Time) (events : List Event) :
    ∃ keyMap, Keyboard.keyMap host.code? settings.keyMap = .ok keyMap ∧
      let handled := before.handleAll time events
      let history := script.flatMap Prod.snd ++ events
      ((∀ entry ∈ settings.keyMap, (Keyboard.selection? entry.2).isSome) →
        handled.failure = none) ∧
      (handled.failure = none → ∀ key,
        (handled.player.keypad.isHeld key ↔
          Event.latest? (Event.setting? keyMap key) history = some true) ∧
        (handled.player.keypad.isHeld key → Keyboard.HoldsDown keyMap history key) ∧
        ((∀ code other, Keyboard.isBound keyMap code key → Keyboard.isBound keyMap other key →
            code = other) →
          (handled.player.keypad.isHeld key ↔ Keyboard.HoldsDown keyMap history key))) := by
  obtain ⟨log, setup, machine, -, made, -, rfl, -⟩ := eq_of_ready ready
  obtain ⟨keys, -⟩ := setupOf_ok made
  obtain ⟨sameSetup, followed⟩ := follows_of_played played rfl
  refine ⟨setup.keyMap, keys, ?_, ?_⟩
  · intro wholeKeys
    refine handleAll_finished ?_ time events
    intro code number bound
    rw [sameSetup] at bound
    obtain ⟨entry, inside, rfl⟩ := List.mem_map.mp (Keyboard.mem_of_keyMap keys bound)
    exact wholeKeys entry inside
  · intro handled key
    rw [← sameSetup] at followed
    have follows := follows_handleAll followed handled
    rw [sameSetup] at follows
    exact ⟨follows.isHeld_iff, follows.holdsDown, fun alone =>
      ⟨follows.holdsDown, follows.isHeld_of_holdsDown alone⟩⟩

theorem keypad_follows_events_of_four_keys :
    let settings : Settings := {
      instructionsPerFrame := .whole 20, framesPerSecond := .whole 60, scale := .whole 10
      colorScheme := "classic", beepFrequency := .real 440.0, volume := .real 0.2
      keyMap := [("q", .whole 5), ("w", .whole 5), ("e", .whole 6), ("p", .whole 7)]
      logLevel := "INFO" }
    let rom : Rom := ⟨"loop.ch8", .ok [0x12, 0x00]⟩
    let first : List Event := [.keyDown 101, .keyDown 112]
    let events : List Event := [.keyDown 113, .keyDown 119, .keyUp 113]
    ∃ player effects before,
      start .desktop settings rom (5.0 : Float) false (.both 0.0) = .ready player effects ∧
      player.Played [(.both 0.1, first)] before ∧
      (before.handleAll (.both 0.2) events).failure = none ∧
      ∀ key, (before.handleAll (.both 0.2) events).player.keypad.isHeld key ↔ key = 6 := by
  intro settings rom first events
  have coded : Keyboard.keyMap Host.desktop.code? settings.keyMap =
      .ok [(113, .whole 5), (119, .whole 5), (101, .whole 6), (112, .whole 7)] := by
    with_unfolding_all rfl
  have goes :
      (match start .desktop settings rom (5.0 : Float) false (.both 0.0) with
      | .ready player _ => player.running && (player.turn (.both 0.1) first).failure.isNone
      | .failed .. | .unloadable _ => false) = true := by decide +kernel
  cases ready : start .desktop settings rom (5.0 : Float) false (.both 0.0) with
  | failed effects error | unloadable effects =>
      rw [ready] at goes
      cases goes
  | ready player effects =>
      rw [ready] at goes
      simp only [Bool.and_eq_true, Option.isNone_iff_eq_none] at goes
      have played : player.Played [(.both 0.1, first)] _ :=
        Played.start.turn goes.1 (.both 0.1) first goes.2
      obtain ⟨keyMap, made, handled, follows⟩ :=
        keypad_follows_events ready played (.both 0.2) events
      cases coded.symm.trans made
      have finished := handled (by decide)
      refine ⟨player, effects, _, rfl, played, finished, fun key => ?_⟩
      rw [(follows finished key).1]
      revert key
      decide

/-- Two keys are bound to one key of the keypad. The one that is released takes it with it, though
the other is still held. -/
theorem keypad_loses_overlapping_keys :
    let settings : Settings := {
      instructionsPerFrame := .whole 20, framesPerSecond := .whole 60, scale := .whole 10
      colorScheme := "classic", beepFrequency := .real 440.0, volume := .real 0.2
      keyMap := [("q", .whole 5), ("w", .whole 5)], logLevel := "INFO" }
    let rom : Rom := ⟨"loop.ch8", .ok [0x12, 0x00]⟩
    let keyMap : Bindings Nat Number := [(113, .whole 5), (119, .whole 5)]
    let events : List Event := [.keyDown 113, .keyDown 119, .keyUp 113]
    ∃ player effects,
      start .desktop settings rom (5.0 : Float) false (.both 0.0) = .ready player effects ∧
      Keyboard.keyMap Keyboard.common? settings.keyMap = .ok keyMap ∧
      (player.handleAll (.both 0.1) events).failure = none ∧
      ¬ ∀ key, (player.handleAll (.both 0.1) events).player.keypad.isHeld key ↔
        Keyboard.HoldsDown keyMap events key := by
  intro settings rom keyMap events
  have coded : Keyboard.keyMap Keyboard.common? settings.keyMap = .ok keyMap := by
    with_unfolding_all rfl
  have released :
      (match start .desktop settings rom (5.0 : Float) false (.both 0.0) with
      | .ready player _ =>
          let handled := player.handleAll (.both 0.1) events
          handled.failure.isNone && !handled.player.keypad.isHeld 5
      | .failed .. | .unloadable _ => false) = true := by decide +kernel
  cases ready : start .desktop settings rom (5.0 : Float) false (.both 0.0) with
  | failed effects error | unloadable effects =>
      rw [ready] at released
      cases released
  | ready player effects =>
      rw [ready] at released
      simp only [Bool.and_eq_true, Option.isNone_iff_eq_none, Bool.not_eq_true'] at released
      refine ⟨player, effects, rfl, coded, released.1, fun reflects => ?_⟩
      have down : Keyboard.HoldsDown keyMap events 5 := ⟨119, rfl, rfl, rfl⟩
      rw [(reflects 5).mpr down] at released
      exact Bool.noConfusion released.2

end Player
end Chip8
