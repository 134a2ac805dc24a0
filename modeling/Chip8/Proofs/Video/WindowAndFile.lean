import Chip8.Proofs.Picture.Rendering
import Chip8.Proofs.Video.Windowed

namespace Chip8.Video
open Picture (factor_whole)

namespace Options
variable {options : Options} {palette : Palette}

theorem idle_opened (options : Options) (width height : Value) :
    Idle (options.opened width height) :=
  (Idle.optional _ ⟨rfl, rfl, rfl⟩).append (.optional _ ⟨rfl, rfl, rfl⟩)

theorem idle_closed (options : Options) : Idle options.closed :=
  (Idle.optional _ ⟨rfl, rfl, rfl⟩).append (.optional _ ⟨rfl, rfl, rfl⟩)

def imageAfter (Level : Type) [Glow Level] (options : Options) (scale : Int) (palette : Palette)
    (screens : List Screen) : Image :=
  let glow := screens.foldl
    (fun before screen =>
      if options.persistence then Phosphor.next before screen else Phosphor.ofScreen screen)
    (Phosphor.start : Vector Level 2048)
  Phosphor.image glow scale palette

def plan (options : Options) (scale : Int) (palette : Palette) (frameCount : Nat)
    (frameSeconds : Float) : Plan where
  writes := options.writes
  shows := options.window
  scale := scale
  palette := palette
  persistence := options.persistence
  frameCount := frameCount
  frameSeconds := frameSeconds

section Frames
variable (Level : Type) [Glow Level] (options : Options) (room : Room) (pace : Pace)
  (screens : List Screen) (seconds : Float) (keys : List Int)

theorem frames_of_ok {scale : Int} (found : Picture.factor room options.scale = .ok scale) :
    options.frames Level room pace screens palette seconds keys =
      (options.plan scale palette screens.length seconds).frames pace keys 1
        (Phosphor.start : Vector Level 2048) screens := by
  cases screens with
  | nil => rfl
  | cons screen rest =>
      simp only [frames, found]
      rfl

theorem frames_of_error {error : RenderError}
    (found : Picture.factor room options.scale = .error error) :
    options.frames Level room pace screens palette seconds keys =
      ([], if screens.isEmpty then none else some (.scale error)) := by
  cases screens with
  | nil => rfl
  | cons screen rest =>
      simp only [frames, found]
      rfl

theorem images_plan (scale : Int) (palette : Palette) :
    (options.plan scale palette screens.length seconds).images
        (Phosphor.start : Vector Level 2048) screens =
      (List.range screens.length).map fun index =>
        options.imageAfter Level scale palette (screens.take (index + 1)) :=
  images_eq_map _ _

end Frames

theorem play_of_writes (Level : Type) [Glow Level] (room : Room) (pace : Pace) (options : Options)
    {displays : PixelArray} {count : Nat} {scale : Int} (writes : options.writes)
    (shape : displays.shape = [count, 2048]) (scaled : options.scale = .number (.whole scale))
    (named : Palette.ofSetting options.palette = .ok palette) (keys : List Int) :
    let screens := (List.range count).map fun index => displays.screenFrom (2048 * index)
    let opened := options.opened (.number (.whole (64 * scale))) (.number (.whole (32 * scale)))
    play Level room pace options displays keys =
      match options.frameSeconds with
      | .error error => (opened, some error)
      | .ok seconds =>
          let taken := options.frames Level room pace screens palette seconds keys
          (opened ++ taken.1 ++ options.closed, taken.2) := by
  intro screens opened
  have file : options.file.isNone = false := by
    cases given : options.file with
    | none => simp [Options.writes, given] at writes
    | some name => rfl
  have taken : screensOf? displays = some screens := by
    rw [screensOf?, shape]
    rfl
  rw [play, file, Bool.false_and, if_neg Bool.false_ne_true, taken, scaled, named]
  rfl

end Options

example :
    let options : Options :=
      { file := some "video.mp4", framesPerSecond := .real 1e-10, scale := .number (.whole 1),
        window := true }
    let video := play Float32 ⟨1048576, by decide⟩ .still options (PixelArray.dark [2, 2048]) []
    video.2 matches some .sleepTooLong ∧ (written video.1).length = 1 := by
  decide +kernel

end Chip8.Video
