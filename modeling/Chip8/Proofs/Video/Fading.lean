import Chip8.Proofs.Video.Closing
import Chip8.Video.ExactGlow

namespace Chip8

/-! ## Shades -/

def IsBetween (value first second : UInt8) : Prop :=
  (first ≤ value ∧ value ≤ second) ∨ (second ≤ value ∧ value ≤ first)

instance (value first second : UInt8) : Decidable (IsBetween value first second) :=
  inferInstanceAs (Decidable (_ ∨ _))

def Color.IsBetween (color first second : Color) : Prop :=
  Chip8.IsBetween color.red first.red second.red ∧
    Chip8.IsBetween color.green first.green second.green ∧
    Chip8.IsBetween color.blue first.blue second.blue

namespace Phosphor

/-- A component between the dark and the lit one, as far from the dark one as the level says. -/
def mixture (level : Rat) (on off : UInt8) : Rat :=
  off.toNat + level * ((on.toNat : Rat) - off.toNat)

theorem mixture_between {level higher : Rat} (nonneg : 0 ≤ level) (below : level ≤ higher)
    (on off : UInt8) :
    (off.toNat ≤ mixture level on off ∧ mixture level on off ≤ mixture higher on off) ∨
      (mixture higher on off ≤ mixture level on off ∧ mixture level on off ≤ off.toNat) := by
  unfold mixture
  -- A lower level is nearer to the dark component, whichever of the two is larger.
  rcases le_total off.toNat on.toNat with up | down
  · have span : (0 : Rat) ≤ on.toNat - off.toNat := sub_nonneg.mpr (Nat.cast_le.mpr up)
    have start := mul_nonneg nonneg span
    have more := mul_le_mul_of_nonneg_right below span
    exact .inl ⟨by linarith, by linarith⟩
  · have span : (on.toNat : Rat) - off.toNat ≤ 0 := sub_nonpos.mpr (Nat.cast_le.mpr down)
    have start := mul_nonpos_of_nonneg_of_nonpos nonneg span
    have more := mul_le_mul_of_nonpos_right below span
    exact .inr ⟨by linarith, by linarith⟩

theorem mixture_full (on off : UInt8) : mixture 1 on off = on.toNat := by
  rw [mixture]
  ring

theorem mixture_mem {level : Rat} (nonneg : 0 ≤ level) (most : level ≤ 1) (on off : UInt8) :
    0 ≤ mixture level on off ∧ mixture level on off ≤ 255 := by
  have byte (component : UInt8) : (component.toNat : Rat) ≤ 255 := by
    exact_mod_cast Nat.le_of_lt_succ component.toNat_lt
  have onNonneg : (0 : Rat) ≤ on.toNat := Nat.cast_nonneg _
  have offNonneg : (0 : Rat) ≤ off.toNat := Nat.cast_nonneg _
  have onByte := byte on
  have offByte := byte off
  have between := mixture_between nonneg most on off
  rw [mixture_full] at between
  rcases between with ⟨first, second⟩ | ⟨first, second⟩
  · exact ⟨by linarith, by linarith⟩
  · exact ⟨by linarith, by linarith⟩

theorem shade_toNat {level : Rat} (nonneg : 0 ≤ level) (most : level ≤ 1) (on off : UInt8) :
    ((Glow.shade level on off).toNat : Int) = ⌊mixture level on off⌋ := by
  obtain ⟨notNegative, byte⟩ := mixture_mem nonneg most on off
  have exact_eq : Glow.shade level on off =
      UInt8.ofNat ((mixture level on off).num.tdiv (mixture level on off).den).toNat := by
    simp only [Glow.shade, mixture, Int.cast_sub, Int.cast_natCast]
  -- Cutting towards zero is taking the floor, as nothing is negative here.
  have cut : (mixture level on off).num.tdiv (mixture level on off).den =
      ⌊mixture level on off⌋ := by
    rw [Int.tdiv_eq_ediv_of_nonneg (Rat.num_nonneg.mpr notNegative), Rat.floor_def']
  have floorNonneg : 0 ≤ ⌊mixture level on off⌋ := Int.floor_nonneg.mpr notNegative
  have floorByte : ⌊mixture level on off⌋ ≤ 255 := by
    exact_mod_cast (Int.floor_le _).trans byte
  rw [exact_eq, cut, UInt8.toNat_ofNat']
  omega

theorem shade_between {level higher : Rat} (nonneg : 0 ≤ level) (below : level ≤ higher)
    (most : higher ≤ 1) (on off : UInt8) :
    IsBetween (Glow.shade level on off) off (Glow.shade higher on off) := by
  have lower := shade_toNat nonneg (below.trans most) on off
  have upper := shade_toNat (nonneg.trans below) most on off
  have whole : ⌊(off.toNat : Rat)⌋ = off.toNat := Int.floor_natCast _
  simp only [IsBetween, UInt8.le_iff_toNat_le]
  rcases mixture_between nonneg below on off with ⟨first, second⟩ | ⟨first, second⟩
  · have first := Int.floor_le_floor first
    have second := Int.floor_le_floor second
    omega
  · have first := Int.floor_le_floor first
    have second := Int.floor_le_floor second
    omega

theorem shade_full (on off : UInt8) : Glow.shade (1 : Rat) on off = on := by
  have value := shade_toNat zero_le_one le_rfl on off
  rw [mixture_full, Int.floor_natCast] at value
  exact UInt8.toNat_inj.mp (Int.natCast_inj.mp value)

theorem shade_dark (on off : UInt8) : Glow.shade (0 : Rat) on off = off := by
  have value := shade_toNat le_rfl zero_le_one on off
  rw [mixture, zero_mul, add_zero, Int.floor_natCast] at value
  exact UInt8.toNat_inj.mp (Int.natCast_inj.mp value)

/-! ## Levels -/

def after (screens : List Screen) : Vector Rat 2048 := screens.foldl next start

theorem after_nil_level (place : Position) : (after []).get place = 0 := by
  simp [after, start, Glow.dark, Vector.get_eq_getElem]

theorem after_concat (screens : List Screen) (screen : Screen) :
    after (screens ++ [screen]) = next (after screens) screen := by
  rw [after, List.foldl_append]
  rfl

theorem next_level {glow : Vector Rat 2048} {place : Position} (nonneg : 0 ≤ glow.get place)
    (most : glow.get place ≤ 1) (screen : Screen) :
    (next glow screen).get place = if screen.isLit place then 1 else glow.get place * (4 / 5) := by
  have level : (next glow screen).get place =
      max 0 (min 1 (glow.get place * (4 / 5) + ofPixel (screen.isLit place))) := by
    simp [next, Glow.add, Glow.fade, Screen.isLit, Vector.get_eq_getElem]
  rw [level]
  split
  · rename_i lit
    have full : (ofPixel (screen.isLit place) : Rat) = 1 := by rw [lit]; rfl
    rw [full, min_eq_left (by linarith), max_eq_right zero_le_one]
  · rename_i dark
    have none : (ofPixel (screen.isLit place) : Rat) = 0 := by
      rw [Bool.eq_false_iff.mpr dark]
      rfl
    rw [none, add_zero, min_eq_right (by linarith), max_eq_right (by linarith)]

theorem after_mem (screens : List Screen) (place : Position) :
    0 ≤ (after screens).get place ∧ (after screens).get place ≤ 1 := by
  induction screens using List.reverseRecOn with
  | nil =>
      rw [after_nil_level]
      exact ⟨le_rfl, zero_le_one⟩
  | append_singleton screens screen ih =>
      rw [after_concat, next_level ih.1 ih.2]
      split
      · exact ⟨zero_le_one, le_rfl⟩
      · constructor <;> linarith

theorem after_concat_level (screens : List Screen) (screen : Screen) (place : Position) :
    (after (screens ++ [screen])).get place =
      if screen.isLit place then 1 else (after screens).get place * (4 / 5) := by
  obtain ⟨nonneg, most⟩ := after_mem screens place
  rw [after_concat, next_level nonneg most]

theorem after_of_dark {screens : List Screen} {place : Position}
    (dark : ∀ screen ∈ screens, screen.isLit place = false) : (after screens).get place = 0 := by
  induction screens using List.reverseRecOn with
  | nil => exact after_nil_level place
  | append_singleton screens screen ih =>
      have before := ih fun other member => dark other (List.mem_append_left _ member)
      rw [after_concat_level, dark screen (by simp), before]
      simp

theorem after_range_level (screen : Nat → Screen) (index : Nat) (place : Position) :
    (after ((List.range (index + 1)).map screen)).get place =
      if (screen index).isLit place then 1
      else (after ((List.range index).map screen)).get place * (4 / 5) := by
  simp only [List.range_succ, List.map_append, List.map_singleton]
  exact after_concat_level _ _ _

theorem after_range_of_dark {screen : Nat → Screen} {index : Nat} {place : Position}
    (dark : ∀ earlier ≤ index, (screen earlier).isLit place = false) :
    (after ((List.range (index + 1)).map screen)).get place = 0 := by
  refine after_of_dark fun shown member => ?_
  obtain ⟨earlier, inside, rfl⟩ := List.mem_map.mp member
  exact dark earlier (Nat.le_of_lt_succ (List.mem_range.mp inside))

/-! ## Colours -/

def IsMixture (color : Color) (level : Rat) (palette : Palette) : Prop :=
  (color.red.toNat : Int) = ⌊mixture level palette.on.red palette.off.red⌋ ∧
    (color.green.toNat : Int) = ⌊mixture level palette.on.green palette.off.green⌋ ∧
    (color.blue.toNat : Int) = ⌊mixture level palette.on.blue palette.off.blue⌋

variable (palette : Palette)

theorem color_isMixture {level : Rat} (nonneg : 0 ≤ level) (most : level ≤ 1) :
    IsMixture (color palette level) level palette :=
  ⟨shade_toNat nonneg most _ _, shade_toNat nonneg most _ _, shade_toNat nonneg most _ _⟩

theorem color_between {level higher : Rat} (nonneg : 0 ≤ level) (below : level ≤ higher)
    (most : higher ≤ 1) :
    (color palette level).IsBetween palette.off (color palette higher) :=
  ⟨shade_between nonneg below most _ _, shade_between nonneg below most _ _,
    shade_between nonneg below most _ _⟩

theorem color_full : color palette (1 : Rat) = palette.on := by
  simp only [color, shade_full]

theorem color_dark : color palette (0 : Rat) = palette.off := by
  simp only [color, shade_dark]

theorem color_ofPixel (lit : Bool) :
    color palette (ofPixel lit : Rat) = if lit then palette.on else palette.off := by
  cases lit
  · exact color_dark palette
  · exact color_full palette

theorem image_eq (glow : Vector Rat 2048) {factor : Nat} (positive : 0 < factor) :
    image glow factor palette = Image.ofPlaces (32 * factor) (64 * factor) fun row column =>
      color palette (glow.get (Screen.position (column / factor) (row / factor))) := by
  rw [image, Image.ofShades_eq, Image.scaleBy_ofPlaces positive, Nat.mul_comm factor,
    Nat.mul_comm factor]

theorem image_ofScreen (screen : Screen) (scale : Int) :
    image (ofScreen screen : Vector Rat 2048) scale palette = screen.render scale palette := by
  have shades : Image.ofShades (ofScreen screen : Vector Rat 2048) (color palette) =
      Image.ofShades screen.pixels fun lit => if lit then palette.on else palette.off := by
    rw [Image.ofShades_eq, Image.ofShades_eq]
    refine Image.ofPlaces_congr fun row _ column _ => ?_
    rw [← color_ofPixel palette]
    simp [ofScreen]
  rw [image, shades]
  rfl

end Phosphor

/-! ## Frames -/

namespace Video
namespace Options
variable {options : Options} {palette : Palette}

theorem imageAfter_of_persistence (persists : options.persistence = true) (scale : Int)
    (palette : Palette) (screens : List Screen) :
    options.imageAfter Rat scale palette screens =
      Phosphor.image (Phosphor.after screens) scale palette := by
  simp only [imageAfter, persists, if_true]
  rfl

theorem imageAfter_concat (forgets : options.persistence = false) (scale : Int)
    (palette : Palette) (screens : List Screen) (screen : Screen) :
    options.imageAfter Rat scale palette (screens ++ [screen]) = screen.render scale palette := by
  simp only [imageAfter, forgets, List.foldl_append]
  exact Phosphor.image_ofScreen palette screen scale

theorem written_frames (Level : Type) [Glow Level] {room : Room} (pace : Pace)
    (writes : options.writes) {scale : Int}
    (accepted : Picture.factor room options.scale = .ok scale) (palette : Palette)
    (screens : List Screen) (seconds : Float) (keys : List Int) :
    ∃ taken ≤ screens.length,
      written (options.frames Level room pace screens palette seconds keys).1 =
        (List.range taken).map (fun index =>
          options.imageAfter Level scale palette (screens.take (index + 1))) ∧
      (options.window = false → taken = screens.length) := by
  rw [frames_of_ok Level options room pace screens seconds keys accepted]
  have images := options.images_plan Level screens seconds scale palette
  cases window : options.window with
  | false =>
      refine ⟨screens.length, le_rfl, ?_, fun _ => rfl⟩
      rw [frames_eq_written writes window, images, written, List.filterMap_map]
      exact List.filterMap_some
  | true =>
      have windowed :=
        frames_windowed (options.plan scale palette screens.length seconds) pace writes window keys
          1 (Phosphor.start : Vector Level 2048) screens
      have first := windowed.written_prefix
      have bound := first.length_le
      rw [images, List.length_map, List.length_range] at bound
      refine ⟨_, bound, ?_, fun hidden => absurd hidden.symm Bool.false_ne_true⟩
      rw [images] at first
      have cut := List.prefix_iff_eq_take.mp first
      rwa [← List.map_take, List.take_range, Nat.min_eq_left bound] at cut

theorem written_play (Level : Type) [Glow Level] (room : Room) (pace : Pace)
    {displays : PixelArray} {count : Nat} {scale : Int} (writes : options.writes)
    (shape : displays.shape = [count, 2048]) (scaled : options.scale = .number (.whole scale))
    (enlarges : 1 ≤ scale) (named : Palette.ofSetting options.palette = .ok palette)
    (keys : List Int) :
    let screen (index : Nat) := displays.screenFrom (2048 * index)
    ∃ taken ≤ count,
      written (play Level room pace options displays keys).1 =
        (List.range taken).map (fun index =>
          options.imageAfter Level scale palette ((List.range (index + 1)).map screen)) ∧
      (0 < taken → Picture.factor room options.scale = .ok scale) ∧
      (options.window = false → room.HoldsImage scale → taken = count) := by
  intro screen
  rw [play_of_writes Level room pace options writes shape scaled named keys]
  rcases options.frameSeconds_cases with ⟨-, seconds, shown⟩ | ⟨noTime, error, failed, -⟩
  · rw [shown]
    dsimp only
    rw [(options.idle_opened _ _).written_between options.idle_closed]
    rcases scaled ▸ Picture.factor_whole_or room enlarges with accepted | ⟨error, refused, -⟩
    · obtain ⟨taken, bound, same, all⟩ := written_frames Level pace writes accepted palette
        ((List.range count).map screen) seconds keys
      rw [List.length_map, List.length_range] at bound all
      refine ⟨taken, bound, same.trans ?_, fun _ => accepted, fun hidden _ => all hidden⟩
      refine List.map_congr_left fun index inside => ?_
      have before : index + 1 ≤ count := by
        have := List.mem_range.mp inside
        omega
      rw [← List.map_take, List.take_range, Nat.min_eq_left before]
    · rw [frames_of_error Level options room pace _ seconds keys refused]
      refine ⟨0, Nat.zero_le _, rfl, nofun, fun _ holds => ?_⟩
      rw [scaled, Picture.factor_whole enlarges holds] at refused
      cases refused
  · rw [failed]
    refine ⟨0, Nat.zero_le _, (options.idle_opened _ _).written_eq_nil, nofun, fun hidden => ?_⟩
    exact absurd (fun window => by rw [hidden] at window; cases window) noTime

end Options

/-- Every frame that is written to a file is the image of its screen. Without persistence it is the
image that rendering gives for the same scale and the palette's colours. With persistence every
pixel has a level between none and full, and the components of its colour are the mixtures of that
level, cut off, which lie between those of the dark and of the lit colour. A pixel that is lit has
the lit colour, one that has been dark all the time has the dark one, and one that is dark in the
next frame does not come any closer to the lit colour there. -/
theorem frames_show_screens (room : Room) (pace : Pace) {options : Options}
    {displays : PixelArray} {count scale : Nat} {palette : Palette} (writes : options.writes)
    (shape : displays.shape = [count, 2048]) (scaled : options.scale = .number (.whole scale))
    (enlarges : 1 ≤ scale) (named : Palette.ofSetting options.palette = .ok palette)
    (keys : List Int) :
    let frames := written (play Rat room pace options displays keys).1
    let screen (index : Nat) := displays.screenFrom (2048 * index)
    let glow (index : Nat) := Phosphor.after ((List.range (index + 1)).map screen)
    (frames.length ≤ count ∧
      (options.window = false → room.HoldsImage scale → frames.length = count)) ∧
    (options.persistence = false → ∀ (index : Nat) (image : Image), frames[index]? = some image →
      Picture.render room (.ofScreen (screen index)) options.scale palette.on.toValue
        palette.off.toValue = .ok image) ∧
    (options.persistence = true → ∀ (index : Nat) (image : Image), frames[index]? = some image →
      image.HasSize (32 * scale) (64 * scale) ∧
      ∀ row < 32 * scale, ∀ column < 64 * scale,
        let place := Screen.position (column / scale) (row / scale)
        ∃ color, image.colorAt? row column = some color ∧
          (0 ≤ (glow index).get place ∧ (glow index).get place ≤ 1) ∧
          Phosphor.IsMixture color ((glow index).get place) palette ∧
          color.IsBetween palette.off palette.on ∧
          ((screen index).isLit place → color = palette.on) ∧
          ((∀ earlier ≤ index, (screen earlier).isLit place = false) → color = palette.off) ∧
          ∀ later : Image, frames[index + 1]? = some later →
            (screen (index + 1)).isLit place = false →
              ∃ next, later.colorAt? row column = some next ∧
                next.IsBetween palette.off color) := by
  intro frames screen glow
  obtain ⟨taken, bound, same, accepted, all⟩ :=
    Options.written_play Rat room pace writes shape scaled (by omega) named keys
  have length : frames.length = taken := by
    rw [show frames = _ from same, List.length_map, List.length_range]
  have image_of {index : Nat} {image : Image} (found : frames[index]? = some image) :
      index < taken ∧
        image = options.imageAfter Rat scale palette ((List.range (index + 1)).map screen) := by
    obtain ⟨inside, rfl⟩ := List.getElem?_eq_some_iff.mp found
    refine ⟨length ▸ inside, ?_⟩
    simp only [show frames = _ from same, List.getElem_map, List.getElem_range]
    rfl
  refine ⟨⟨length ▸ bound, fun hidden holds => length.trans (all hidden holds)⟩, ?_, ?_⟩
  · intro forgets index image found
    obtain ⟨inside, rfl⟩ := image_of found
    rw [List.range_succ, List.map_append, List.map_singleton,
      Options.imageAfter_concat forgets, Picture.render_ofScreen, accepted (by omega)]
    rfl
  · intro persists index image found
    have shown {index : Nat} {image : Image} (found : frames[index]? = some image) :
        image = Image.ofPlaces (32 * scale) (64 * scale) fun row column =>
          Phosphor.color palette
            ((glow index).get (Screen.position (column / scale) (row / scale))) := by
      rw [(image_of found).2, Options.imageAfter_of_persistence persists]
      exact Phosphor.image_eq palette (glow index) enlarges
    refine ⟨shown found ▸ Image.hasSize_ofPlaces _ _ _, ?_⟩
    intro row rowInside column columnInside place
    obtain ⟨nonneg, most⟩ := Phosphor.after_mem ((List.range (index + 1)).map screen) place
    have level (index : Nat) := Phosphor.after_range_level screen index place
    refine ⟨Phosphor.color palette ((glow index).get place), ?_, ⟨nonneg, most⟩,
      Phosphor.color_isMixture palette nonneg most, ?_, ?_, ?_, ?_⟩
    · rw [shown found]
      exact Image.colorAt?_ofPlaces _ rowInside columnInside
    · have between := Phosphor.color_between palette nonneg most le_rfl
      rwa [Phosphor.color_full] at between
    · intro lit
      have full : (glow index).get place = 1 := (level index).trans (if_pos lit)
      rw [full, Phosphor.color_full]
    · intro dark
      have none : (glow index).get place = 0 := Phosphor.after_range_of_dark dark
      rw [none, Phosphor.color_dark]
    · intro later foundLater dark
      refine ⟨_, shown foundLater ▸ Image.colorAt?_ofPlaces _ rowInside columnInside, ?_⟩
      have faded : (glow (index + 1)).get place = (glow index).get place * (4 / 5) :=
        (level (index + 1)).trans (if_neg (by simp [dark]))
      change (Phosphor.color palette ((glow (index + 1)).get place)).IsBetween palette.off _
      rw [faded]
      exact Phosphor.color_between palette (by linarith) (by linarith) most

theorem frames_show_screens_of_corner :
    let lit := Screen.dark.toggle (Screen.position 0 0)
    let options : Options :=
      { file := some "video.mp4", scale := .number (.whole 2), palette := .text "retro" }
    let displays := PixelArray.ofScreens [lit, .dark]
    let room : Room := ⟨1048576, by decide⟩
    let frames := written (play Rat room .still options displays []).1
    ∃ first second : Image, frames = [first, second] ∧
      first.colorAt? 1 1 = some ⟨255, 255, 0⟩ ∧ first.colorAt? 1 2 = some ⟨64, 0, 64⟩ ∧
      second.colorAt? 1 1 = some ⟨216, 204, 12⟩ := by
  intro lit options displays room frames
  have writes : options.writes = true := rfl
  have shape : displays.shape = [2, 2048] := rfl
  have named : Palette.ofSetting options.palette = .ok ⟨⟨255, 255, 0⟩, ⟨64, 0, 64⟩⟩ := by
    decide +kernel
  obtain ⟨⟨-, all⟩, -, persistent⟩ :=
    frames_show_screens room .still writes shape rfl (show 1 ≤ 2 by decide) named []
  obtain ⟨first, second, both⟩ := List.length_eq_two.mp (all rfl (by decide))
  have shows := persistent rfl
  rw [both] at shows
  obtain ⟨-, cells⟩ := shows 0 first rfl
  obtain ⟨corner, cornerIs, -, -, -, onWhenLit, -, -⟩ := cells 1 (by decide) 1 (by decide)
  obtain ⟨beside, besideIs, -, -, -, -, offWhenDark, -⟩ := cells 1 (by decide) 2 (by decide)
  obtain ⟨faded, fadedIs, -, mixed, -⟩ := (shows 1 second rfl).2 1 (by decide) 1 (by decide)
  let screen (index : Nat) := displays.screenFrom (2048 * index)
  have zero : screen 0 = lit := PixelArray.screenFrom_ofScreens rfl
  have one : screen 1 = .dark := PixelArray.screenFrom_ofScreens rfl
  have litCorner : (screen 0).isLit (Screen.position 0 0) = true := by
    rw [zero]
    decide +kernel
  have darkBeside : (screen 0).isLit (Screen.position 1 0) = false := by
    rw [zero]
    decide +kernel
  have darkCorner : (screen 1).isLit (Screen.position 0 0) = false := by
    rw [one]
    decide +kernel
  have level :
      (Phosphor.after ([] ++ [screen 0] ++ [screen 1])).get (Screen.position 0 0) = 4 / 5 := by
    rw [Phosphor.after_concat_level, Phosphor.after_concat_level, litCorner, darkCorner]
    norm_num
  have floors : Phosphor.IsMixture faded (4 / 5) ⟨⟨255, 255, 0⟩, ⟨64, 0, 64⟩⟩ := level ▸ mixed
  refine ⟨first, second, both, ?_, ?_, ?_⟩
  · rw [cornerIs, onWhenLit litCorner]
  · rw [besideIs, offWhenDark fun earlier before => Nat.le_zero.mp before ▸ darkBeside]
  · rw [fadedIs]
    obtain ⟨red, green, blue⟩ := faded
    have redFloor : ⌊Phosphor.mixture (4 / 5) 255 64⌋ = 216 := by decide +kernel
    have greenFloor : ⌊Phosphor.mixture (4 / 5) 255 0⌋ = 204 := by decide +kernel
    have blueFloor : ⌊Phosphor.mixture (4 / 5) 0 64⌋ = 12 := by decide +kernel
    have same : red = 216 ∧ green = 204 ∧ blue = 12 := by
      simp only [Phosphor.IsMixture, redFloor, greenFloor, blueFloor] at floors
      simp only [← UInt8.toNat_inj]
      exact_mod_cast floors
    obtain ⟨rfl, rfl, rfl⟩ := same
    rfl

end Video
end Chip8
