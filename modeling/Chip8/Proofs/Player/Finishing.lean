import Chip8.Proofs.Checks
import Chip8.Proofs.Player.Sessions
import Chip8.Proofs.Player.Showing

namespace Chip8

def Setup.KeysUsable (setup : Setup) : Prop :=
  ∀ code number, setup.keyMap.lookup code = some number → (Keyboard.selection? number).isSome

theorem Bindings.mem_of_lookup_foldl {Key Item : Type} [DecidableEq Key] {key : Key} {item : Item}
    (pairs : List (Key × Item)) (start : Bindings Key Item)
    (found : (pairs.foldl (fun bindings pair => bind pair.1 pair.2 bindings) start).lookup key =
      some item) :
    item ∈ pairs.map Prod.snd ∨ start.lookup key = some item := by
  induction pairs generalizing start with
  | nil => exact .inr found
  | cons pair rest ih =>
      rcases ih _ found with inside | before
      · exact .inl (List.mem_cons_of_mem _ inside)
      · rw [lookup_bind] at before
        split at before
        · exact .inl (by simp [Option.some.inj before])
        · exact .inr before

theorem Keyboard.mem_of_keyMap {code? : String → Option Nat} {entries : Bindings String Number}
    {keyMap : Bindings Nat Number} (made : Keyboard.keyMap code? entries = .ok keyMap)
    {code : Nat} {number : Number} (bound : keyMap.lookup code = some number) :
    number ∈ entries.map Prod.snd := by
  obtain ⟨pairs, coded, same⟩ := of_bind_ok made
  cases same
  have numbers : pairs.map Prod.snd = entries.map Prod.snd := by
    refine map_of_mapM (fun entry pair coded => ?_) coded
    obtain ⟨key, found, same⟩ := of_bind_ok coded
    cases same
    rfl
  rw [← numbers]
  exact (Bindings.mem_of_lookup_foldl pairs [] bound).resolve_right (by simp)

namespace Player
variable {Time : Type} {player : Player Time} {machine : Machine}

theorem setKey_finished (usable : player.setup.KeysUsable) (code : Nat) (held : Bool) :
    (player.setKey code held).failure = none := by
  unfold setKey
  split
  · rfl
  · rename_i number bound
    obtain ⟨selection, selected⟩ := Option.isSome_iff_exists.mp (usable code number bound)
    rw [selected]

variable [Clock Time]

theorem handle_finished (usable : player.setup.KeysUsable) (now : Reading Time) (event : Event) :
    (player.handle now event).failure = none := by
  cases event with
  | keyDown code =>
      unfold handle
      dsimp only
      split
      · rfl
      split
      · rfl
      split
      · rfl
      · exact setKey_finished usable code true
  | keyUp code => exact setKey_finished usable code false
  | quit | other => rfl

theorem handleAll_finished (usable : player.setup.KeysUsable) (now : Reading Time)
    (events : List Event) : (player.handleAll now events).failure = none := by
  induction events generalizing player with
  | nil => rfl
  | cons event rest ih =>
      refine Turn.andThen_finished.mpr ⟨handle_finished usable now event, ih ?_⟩
      rwa [handle_setup]

variable [LawfulClock Time]

theorem Shows.runFrame_finished (shows : player.Shows machine) (now : Reading Time) {count : Int}
    (counted : Input.count (.number player.setup.instructionsPerFrame) = .ok count)
    {work rounds : Nat} (able : player.interpreter.CanCount (2 ^ 31 + work) (1 + rounds)) :
    (player.runFrame now).failure = none ∧
      (player.runFrame now).player.interpreter.CanCount work rounds := by
  cases shows with
  | stopped paused same halted =>
      rw [Player.runFrame, if_pos paused]
      exact ⟨rfl, able.mono (Nat.le_add_left _ _) (Nat.le_add_left _ _)⟩
  | running unpaused same runs =>
      subst same
      obtain ⟨counts, rest⟩ := able.settle (Number.upTo_of_count counted) now
        (player.interpreter.machine.runFrame player.keypad count.toNat)
      have problem := Interpreter.settle_of_counted counts
      rw [Player.runFrame, if_neg (by simp [unpaused]), Interpreter.runFrame_eq _ _ _ counted]
      dsimp only
      rcases Machine.runFrame_halt? runs player.keypad count.toNat with
        going | ⟨cause, address, stopped⟩
      · rw [going] at problem
        rw [problem]
        exact ⟨rfl, rest⟩
      · rw [stopped] at problem
        rw [problem]
        exact ⟨rfl, rest⟩

theorem Shows.turn_finished (shows : player.Shows machine) (now : Reading Time) {count : Int}
    {events : List Event}
    (counted : Input.count (.number player.setup.instructionsPerFrame) = .ok count)
    (play : ∀ event ∈ events, event.Plays)
    (usable : player.setup.KeysUsable) {work rounds : Nat}
    (able : player.interpreter.CanCount (2 ^ 31 + work) (1 + rounds)) :
    (player.turn now events).failure = none ∧
      (player.turn now events).player.interpreter.CanCount work rounds := by
  have shown := shows.afterEvents events
  obtain ⟨ran, rest⟩ := shown.runFrame_finished now counted able
  have handled := handleAll_finished usable now events
  have afterHandling := player.handleAll_player now play handled
  have finished : (player.turn now events).failure = none :=
    turn_finished_iff.mpr ⟨handled, by rwa [afterHandling]⟩
  refine ⟨finished, ?_⟩
  obtain ⟨-, ⟨beeping, same⟩, -⟩ := turn_of_finished play finished
  rw [same]
  exact rest

/-- A session that shows a machine takes all its turns and none of them fails, as long as only the
last one may end it. -/
theorem Shows.turns_finished (shows : player.Shows machine) {count : Int}
    (counted : Input.count (.number player.setup.instructionsPerFrame) = .ok count)
    (usable : player.setup.KeysUsable) {script : List (Reading Time × List Event)}
    (running : player.running ∨ script = [])
    (play : ∀ entry ∈ script, ∀ event ∈ entry.2, event.Plays)
    (goesOn : ∀ entry ∈ script.dropLast, ∀ event ∈ entry.2, event.ends = false)
    (able : player.interpreter.CanCount (2 ^ 31 * script.length) script.length) :
    (player.turns script).length = script.length ∧
      ∀ turn ∈ player.turns script, turn.failure = none := by
  induction script generalizing player machine with
  | nil => simp [turns]
  | cons entry rest ih =>
      obtain ⟨now, events⟩ := entry
      have firstPlay := play (now, events) List.mem_cons_self
      have share : player.interpreter.CanCount (2 ^ 31 + 2 ^ 31 * rest.length) (1 + rest.length) :=
        able.mono (by rw [List.length_cons]; omega) (by rw [List.length_cons]; omega)
      obtain ⟨finished, more⟩ := shows.turn_finished now counted firstPlay usable share
      obtain ⟨setup, -, stays⟩ := turn_keeps firstPlay finished
      have shown := shows.turn counted firstPlay finished
      rw [← setup] at counted usable
      have next : (player.turn now events).player.running ∨ rest = [] := by
        cases rest with
        | nil => exact .inr rfl
        | cons later others =>
            have noEnd : events.any Event.ends = false := by
              simpa using goesOn (now, events) (by simp)
            have runs : player.running := by simpa using running
            exact .inl (by rw [stays, Player.afterEvents, runs, noEnd]; rfl)
      have stillGoesOn : ∀ entry ∈ rest.dropLast, ∀ event ∈ entry.2, event.ends = false := by
        cases rest with
        | nil => simp
        | cons later others =>
            exact fun entry member => goesOn entry (List.mem_cons_of_mem _ member)
      have others := ih shown counted usable next
        (fun entry member => play entry (List.mem_cons_of_mem _ member)) stillGoesOn more
      rw [turns_cons finished next]
      refine ⟨congrArg Nat.succ others.1, ?_⟩
      intro turn member
      rcases List.mem_cons.mp member with rfl | later
      · exact finished
      · exact others.2 turn later

end Player
end Chip8
