import Chip8.Proofs.Checks
import Chip8.Proofs.Player.Sessions

namespace Chip8

theorem Rom.read_eq_ok_iff {rom : Rom} {program : List UInt8} :
    rom.read = .ok program ↔ rom.contents = .ok program := by
  unfold read
  cases rom.contents <;> simp

theorem Rom.read_eq_error_iff {rom : Rom} {error : LoadError} :
    rom.read = .error error ↔
      ∃ cause, rom.contents = .error cause ∧ error = .file cause (Text.quoted rom.name) := by
  unfold read
  cases rom.contents <;> simp [eq_comm]

namespace Interpreter
variable {Time : Type} [Clock Time] {interpreter : Interpreter Time} {rom : Rom}

theorem loadRom_of_ok {machine : Machine}
    (loaded : interpreter.machine.loadRom rom = .ok machine) (now : Reading Time) :
    (interpreter.loadRom now rom).problem = none ∧
      (interpreter.loadRom now rom).interpreter = { interpreter with machine } := by
  obtain ⟨program, read, fits⟩ := of_bind_ok loaded
  rw [loadRom, Rom.read_eq_ok_iff.mp read]
  cases logged : interpreter.log <;> simp [loadFile, load, fits, logged, SessionLog.loaded?]

theorem loadRom_of_error {error : LoadError}
    (refused : interpreter.machine.loadRom rom = .error error) (now : Reading Time) :
    (interpreter.loadRom now rom).problem = some (.load error) := by
  unfold Machine.loadRom at refused
  cases read : rom.read with
  | error failure =>
      have same : failure = error := by simpa [read, bind, Except.bind] using refused
      obtain ⟨cause, unread, rfl⟩ := Rom.read_eq_error_iff.mp read
      rw [loadRom, unread, ← same]
      rfl
  | ok program =>
      have tooLarge : interpreter.machine.load program = .error error := by
        simpa [read, bind, Except.bind] using refused
      rw [loadRom, Rom.read_eq_ok_iff.mp read]
      simp [loadFile, load, tooLarge, refuse]

end Interpreter

def Opening.isReady {Time : Type} : Opening Time → Bool
  | .ready .. => true
  | .failed .. | .unloadable _ => false

namespace Player
variable {Time : Type} {host : Host} {settings : Settings} {rom : Rom}

theorem of_lift_ok {Error Item : Type} {wrap : Error → SetupError} {checked : Except Error Item}
    {item : Item} (succeeded : lift wrap checked = .ok item) : checked = .ok item := by
  cases checked with
  | error error => cases succeeded
  | ok found => exact congrArg Except.ok (Except.ok.inj succeeded)

theorem setupOf_ok {setup : Setup} (made : setupOf host settings rom = .ok setup) :
    Keyboard.keyMap host.code? settings.keyMap = .ok setup.keyMap ∧
      Palette.ofSetting (.text settings.colorScheme) = .ok setup.palette ∧
      setup.scale = settings.scale ∧
      setup.instructionsPerFrame = settings.instructionsPerFrame := by
  obtain ⟨keyMap, keys, made⟩ := of_bind_ok made
  obtain ⟨tone, -, made⟩ := of_bind_ok made
  obtain ⟨palette, colors, made⟩ := of_bind_ok made
  cases made
  exact ⟨of_lift_ok keys, of_lift_ok colors, rfl, rfl⟩

variable [Clock Time]

theorem eq_of_ready {interval : Time} {terminal : Bool} {now : Reading Time}
    {player : Player Time} {effects : List Effect}
    (ready : start host settings rom interval terminal now = .ready player effects) :
    ∃ log setup machine,
      SessionLog.start? { level := .text settings.logLevel } interval terminal now = .ok log ∧
      setupOf host settings rom = .ok setup ∧
      (Machine.powerOn (RandomKey.ofSeed 0)).loadRom rom = .ok machine ∧
      player = {
        setup
        interpreter := ⟨machine, some log⟩
        keypad := .released
        running := true
        paused := false
        beeping := false } ∧
      ∀ effect ∈ effects, effect.tone? = none := by
  unfold start at ready
  split at ready
  · cases ready
  · rename_i log logged
    dsimp only at ready
    split at ready
    · cases ready
    · rename_i setup made
      cases loaded : (Machine.powerOn (RandomKey.ofSeed 0)).loadRom rom with
      | error error =>
          have refused : (Interpreter.create (RandomKey.ofSeed 0) (some log)).machine.loadRom rom =
              .error error := loaded
          rw [Interpreter.loadRom_of_error refused now] at ready
          cases ready
      | ok machine =>
          have fits : (Interpreter.create (RandomKey.ofSeed 0) (some log)).machine.loadRom rom =
              .ok machine := loaded
          obtain ⟨problem, same⟩ := Interpreter.loadRom_of_ok fits now
          rw [problem] at ready
          cases ready
          refine ⟨log, setup, machine, logged, made, rfl, by rw [same]; rfl, ?_⟩
          have printed (text : String) (effect : Effect)
              (member : effect ∈ if text = "" then [] else [Effect.printed text]) :
              effect.tone? = none := by
            obtain ⟨text, rfl⟩ := eq_of_mem_printed member
            rfl
          intro effect member
          rcases List.mem_append.mp member with first | controls
          · rcases List.mem_append.mp first with window | loading
            · simp only [List.mem_cons, List.not_mem_nil, or_false] at window
              rcases window with rfl | rfl | rfl <;> rfl
            · exact printed _ effect loading
          · exact printed _ effect controls

end Player
end Chip8
