import Chip8.Proofs.Player.Finishing
import Chip8.Proofs.Player.Opening

namespace Chip8

namespace Player
variable {Time : Type} {host : Host} {settings : Settings} {rom : Rom}

structure Opened (host : Host) (settings : Settings) (rom : Rom) (machine : Machine)
    (player : Player Time) : Prop where
  setup : setupOf host settings rom = .ok player.setup
  loaded : (Machine.powerOn (RandomKey.ofSeed 0)).loadRom rom = .ok machine
  holds : player.interpreter.machine = machine
  counts : ∀ log ∈ player.interpreter.log, log.Counts 0 0
  keypad : player.keypad = .released
  running : player.running = true
  unpaused : player.paused = false

theorem Opened.shows {machine : Machine} {player : Player Time}
    (opened : Opened host settings rom machine player) : player.Shows machine := by
  obtain ⟨program, -, fits⟩ := of_bind_ok opened.loaded
  exact .running opened.unpaused opened.holds (by rw [Machine.load_eq fits]; rfl)

variable [Clock Time]

theorem opened_of_ready {interval : Time} {terminal : Bool} {now : Reading Time}
    {player : Player Time} {effects : List Effect}
    (ready : start host settings rom interval terminal now = .ready player effects) :
    ∃ machine, Opened host settings rom machine player := by
  obtain ⟨log, setup, machine, logged, made, loaded, rfl, -⟩ := eq_of_ready ready
  refine ⟨machine, made, loaded, rfl, ?_, rfl, rfl, rfl⟩
  intro found present
  cases present
  exact SessionLog.counts_start? logged

/-- What a session draws that is neither paused nor reset. The events alone determine the keypads,
the keypads the screens of the machine, and every turn that does not fail draws its screen; one that
fails draws nothing. None fails if every bound key stands for keys of the keypad and the log can
count the frames. -/
theorem shows_frames [LawfulClock Time] {interval : Time} {terminal : Bool} {now : Reading Time}
    {player : Player Time} {effects : List Effect}
    (ready : start host settings rom interval terminal now = .ready player effects) {count : Int}
    (counted : Input.count (.number settings.instructionsPerFrame) = .ok count)
    {script : List (Reading Time × List Event)}
    (play : ∀ entry ∈ script, ∀ event ∈ entry.2, event.Plays) :
    ∃ machine keyMap palette,
      (Machine.powerOn (RandomKey.ofSeed 0)).loadRom rom = .ok machine ∧
      Keyboard.keyMap host.code? settings.keyMap = .ok keyMap ∧
      Palette.ofSetting (.text settings.colorScheme) = .ok palette ∧
      let keypads := Keypad.ofEvents keyMap .released (script.map Prod.snd)
      let screens := (machine.runFrames keypads count.toNat).2
      (∀ (index : Nat) (turn : Turn Time), (player.turns script)[index]? = some turn →
        turn.failure = none →
        keypads[index]? = some turn.player.keypad ∧
        ∃ screen, screens[index]? = some screen ∧
          turn.player.interpreter.machine.screen = screen ∧
          turn.drawing = screen.strokes settings.scale palette.on palette.off) ∧
      (∀ turn ∈ player.turns script, turn.failure ≠ none → turn.drawing = []) ∧
      ((∀ entry ∈ settings.keyMap, (Keyboard.selection? entry.2).isSome) →
        (∀ entry ∈ script.dropLast, ∀ event ∈ entry.2, event.ends = false) →
        script.length ≤ 2 ^ 160 →
        (player.turns script).length = script.length ∧
          ∀ turn ∈ player.turns script, turn.failure = none) := by
  obtain ⟨machine, opened⟩ := opened_of_ready ready
  obtain ⟨keys, colors, scale, perFrame⟩ := setupOf_ok opened.setup
  rw [← perFrame] at counted
  refine ⟨machine, player.setup.keyMap, player.setup.palette, opened.loaded, keys, colors, ?_,
    ?_, ?_⟩
  · intro index turn found finished
    obtain ⟨keypad, screen, drawing, kept⟩ := turns_show opened.shows counted play found finished
    rw [opened.keypad] at keypad screen
    refine ⟨keypad, _, screen, rfl, ?_⟩
    rw [drawing, strokes, kept, ← scale]
  · intro turn member failed
    obtain ⟨before, entry, inside, rfl⟩ := mem_turns member
    exact turn_drawing_of_failed (play entry inside) failed
  · intro wholeKeys goesOn fits
    refine opened.shows.turns_finished counted ?_ (.inl opened.running) play goesOn ?_
    · intro code number bound
      obtain ⟨entry, inside, rfl⟩ := List.mem_map.mp (Keyboard.mem_of_keyMap keys bound)
      exact wholeKeys entry inside
    · intro log present
      refine ⟨0, 0, opened.counts log present, ?_, ?_⟩
      · rw [Number.limit]
        omega
      · rw [Number.limit]
        omega

theorem shows_frames_of_stopped_program :
    let settings : Settings := {
      instructionsPerFrame := .whole 1, framesPerSecond := .whole 60, scale := .whole 10
      colorScheme := "classic", beepFrequency := .real 440.0, volume := .real 0.2
      keyMap := [("w", .whole 5)], logLevel := "INFO" }
    let rom : Rom := ⟨"digit.ch8", .ok [0xD0, 0x05, 0x00, 0xEE]⟩
    let script : List (Reading Float × List Event) :=
      [(.both 0.1, [.keyDown 119]), (.both 0.2, []), (.both 7.0, [.keyUp 119]),
        (.both 7.1, [.quit])]
    ∃ player effects machine keyMap,
      start .desktop settings rom (5.0 : Float) false (.both 0.0) = .ready player effects ∧
      (Machine.powerOn (RandomKey.ofSeed 0)).loadRom rom = .ok machine ∧
      (machine.run 2).isHalted ∧
      (player.turns script).length = 4 ∧
      ∀ (index : Nat) (turn : Turn Float), (player.turns script)[index]? = some turn →
        ∃ screen,
          (machine.runFrames
            (Keypad.ofEvents keyMap .released (script.map Prod.snd)) 1).2[index]? = some screen ∧
          turn.player.interpreter.machine.screen = screen := by
  intro settings rom script
  have opens : (start .desktop settings rom (5.0 : Float) false (.both 0.0)).isReady := by
    decide +kernel
  have stops : ((Machine.powerOn (RandomKey.ofSeed 0)).loadRom rom).toOption.map
      (fun machine => (machine.run 2).isHalted) = some true := by decide +kernel
  cases outcome : start .desktop settings rom (5.0 : Float) false (.both 0.0) with
  | failed effects error | unloadable effects =>
      rw [outcome] at opens
      cases opens
  | ready player effects =>
      have counted : Input.count (.number settings.instructionsPerFrame) = .ok 1 :=
        Input.count_whole 1
      have play : ∀ entry ∈ script, ∀ event ∈ entry.2, event.Plays := by decide
      obtain ⟨machine, keyMap, palette, loaded, -, -, shown, -, goesOn⟩ :=
        shows_frames outcome counted play
      obtain ⟨length, finished⟩ := goesOn (by decide) (by decide) (by decide)
      refine ⟨player, effects, machine, keyMap, rfl, loaded, ?_, length, ?_⟩
      · rw [loaded] at stops
        exact Option.some.inj stops
      · intro index turn found
        obtain ⟨-, screen, same, holds, -⟩ :=
          shown index turn found (finished turn (List.mem_of_getElem? found))
        exact ⟨screen, same, holds⟩

end Player
end Chip8
