import Chip8.Picture.Render
import Chip8.Proofs.Checks
import Chip8.Proofs.Decimal.FloatRange

namespace Chip8

namespace Image

def ofPlaces (height width : Nat) (color : Nat → Nat → Color) : Image :=
  ⟨(List.range height).map fun row => (List.range width).map (color row)⟩

def HasSize (image : Image) (height width : Nat) : Prop :=
  image.rows.length = height ∧ ∀ line ∈ image.rows, line.length = width

def colorAt? (image : Image) (row column : Nat) : Option Color :=
  image.rows[row]?.bind (·[column]?)

theorem hasSize_ofPlaces (height width : Nat) (color : Nat → Nat → Color) :
    (ofPlaces height width color).HasSize height width := by
  simp [HasSize, ofPlaces]

theorem colorAt?_ofPlaces {height width row column : Nat} (color : Nat → Nat → Color)
    (rowInside : row < height) (columnInside : column < width) :
    (ofPlaces height width color).colorAt? row column = some (color row column) := by
  simp [colorAt?, ofPlaces, rowInside, columnInside]

theorem ofPlaces_congr {height width : Nat} {color other : Nat → Nat → Color}
    (same : ∀ row < height, ∀ column < width, color row column = other row column) :
    ofPlaces height width color = ofPlaces height width other := by
  unfold ofPlaces
  congr 1
  refine List.map_congr_left fun row rowInside => List.map_congr_left fun column columnInside => ?_
  exact same row (List.mem_range.mp rowInside) column (List.mem_range.mp columnInside)

theorem ofShades_eq {Shade : Type} (shades : Vector Shade 2048) (color : Shade → Color) :
    ofShades shades color = ofPlaces 32 64 fun row column =>
      color (shades.get (Screen.position column row)) := rfl

theorem repeatEach_map_range {Item : Type} {factor : Nat} (positive : 0 < factor)
    (item : Nat → Item) (count : Nat) :
    repeatEach factor ((List.range count).map item) =
      (List.range (factor * count)).map fun index => item (index / factor) := by
  induction count with
  | zero => rfl
  | succ count ih =>
      have block : (List.range factor).map (fun index => item ((factor * count + index) / factor)) =
          List.replicate factor (item count) := by
        rw [← List.length_range (n := factor), ← List.map_const', List.length_range]
        refine List.map_congr_left fun index inside => ?_
        rw [Nat.mul_add_div positive, Nat.div_eq_of_lt (List.mem_range.mp inside), Nat.add_zero]
      rw [List.range_succ, List.map_append, Nat.mul_succ, List.range_add, List.map_append, ← ih,
        List.map_map]
      simp only [repeatEach, List.flatMap_append, List.map_singleton, List.flatMap_singleton]
      rw [← block]
      rfl

theorem enlarge_ofPlaces {factor : Nat} (positive : 0 < factor) (height width : Nat)
    (color : Nat → Nat → Color) :
    (ofPlaces height width color).enlarge factor =
      ofPlaces (factor * height) (factor * width) fun row column =>
        color (row / factor) (column / factor) := by
  unfold enlarge ofPlaces
  rw [List.map_map, repeatEach_map_range positive]
  congr 1
  refine List.map_congr_left fun row _ => ?_
  exact repeatEach_map_range positive _ width

theorem scaleBy_ofPlaces {factor : Nat} (positive : 0 < factor) (height width : Nat)
    (color : Nat → Nat → Color) :
    (ofPlaces height width color).scaleBy factor =
      ofPlaces (factor * height) (factor * width) fun row column =>
        color (row / factor) (column / factor) := by
  by_cases one : factor = 1
  · subst one
    simp [scaleBy]
  · have above : (1 : Int) < factor := by omega
    rw [scaleBy, if_pos above, Int.toNat_natCast]
    exact enlarge_ofPlaces positive height width color

end Image

theorem Screen.render_eq (screen : Screen) {factor : Nat} (positive : 0 < factor)
    (palette : Palette) :
    screen.render factor palette = Image.ofPlaces (32 * factor) (64 * factor) fun row column =>
      if screen.isLit (position (column / factor) (row / factor)) then palette.on
      else palette.off := by
  rw [render, Image.ofShades_eq, Image.scaleBy_ofPlaces positive, Nat.mul_comm factor,
    Nat.mul_comm factor]
  rfl

def Color.toValue (color : Color) : Value :=
  .list [.number (.whole color.red.toNat), .number (.whole color.green.toNat),
    .number (.whole color.blue.toNat)]

theorem PixelArray.screenFrom_ofScreen (screen : Screen) :
    (PixelArray.ofScreen screen).screenFrom 0 = screen := by
  refine congrArg Screen.mk (Vector.ext fun place inside => ?_)
  simp [ofScreen]

theorem PixelArray.screenFrom_ofScreens {screens : List Screen} {index : Nat} {screen : Screen}
    (found : screens[index]? = some screen) :
    (ofScreens screens).screenFrom (2048 * index) = screen := by
  have pixel (place : Position) :
      (screens.flatMap fun screen => screen.pixels.toList)[2048 * index + place.val]? =
        some screen.pixels[place] := by
    induction screens generalizing index with
    | nil => cases found
    | cons first rest ih =>
        cases index with
        | zero =>
            cases found
            rw [List.flatMap_cons, List.getElem?_append_left (by simp)]
            simp
        | succ index =>
            rw [List.flatMap_cons, List.getElem?_append_right (by simp; omega), ← ih found]
            congr 1
            simp
            omega
  refine congrArg Screen.mk (Vector.ext fun place inside => ?_)
  rw [Vector.getElem_ofFn, Array.getD_eq_getD_getElem?, ofScreens, List.getElem?_toArray,
    pixel ⟨place, inside⟩]
  rfl

namespace Picture

theorem screenOf_ofScreen (screen : Screen) : screenOf (.ofScreen screen) = .ok screen := by
  have fits : (PixelArray.ofScreen screen).lit.size = pixelCount [32, 64] := by
    simp [PixelArray.ofScreen, pixelCount]
  have grid : (PixelArray.ofScreen screen).toGrid =
      .ok ⟨[32, 64], (PixelArray.ofScreen screen).lit, fits⟩ := dif_pos fits
  simp only [screenOf, grid]
  exact congrArg Except.ok (PixelArray.screenFrom_ofScreen screen)

theorem component_byte (byte : UInt8) : component (.number (.whole byte.toNat)) = .ok byte := by
  have bound := byte.toNat_lt
  have word : Input.isInt64 byte.toNat = true := by simp [Input.isInt64]; omega
  have inside : (0 : Int) ≤ byte.toNat ∧ (byte.toNat : Int) ≤ 255 := by omega
  simp only [component, Number.truncate?, Picture.byte, word, Bool.not_true, Bool.false_eq_true,
    if_false, inside, and_self, if_true, Int.toNat_natCast, UInt8.ofNat_toNat]

theorem tint_toValue (color : Color) (pixels : Nat) :
    tint color.toValue pixels = .ok (.plain color) := by
  have outline : color.toValue.outline = ⟨[3], true⟩ := rfl
  have leaves : color.toValue.leaves.mapM component =
      .ok [color.red, color.green, color.blue] := by
    have three : color.toValue.leaves = [.number (.whole color.red.toNat),
      .number (.whole color.green.toNat), .number (.whole color.blue.toNat)] := rfl
    rw [three]
    simp only [List.mapM_cons, List.mapM_nil, component_byte]
    rfl
  have plain : tintOf [3] [color.red, color.green, color.blue] pixels = some (.plain color) := by
    simp [tintOf, lastSizes, pixelCount, colorsOf]
  simp only [tint, outline, leaves]
  simp [plain, bind, Except.bind, pure, Except.pure]

theorem render_ofScreen (room : Room) (screen : Screen) (scale : Value) (palette : Palette) :
    render room (.ofScreen screen) scale palette.on.toValue palette.off.toValue =
      (factor room scale).map fun factor => screen.render factor palette := by
  simp only [render, screenOf_ofScreen, tint_toValue]
  cases factor room scale <;> rfl

variable {room : Room} {scale : Int}

theorem factor_of_le_one (small : scale ≤ 1) : factor room (.number (.whole scale)) = .ok 1 := by
  have atMost : (Number.whole scale).isAtMost 1 = true := decide_eq_true small
  simp only [factor, atMost, Bool.true_or, if_true]

theorem factor_of_one_lt (above : 1 < scale) :
    factor room (.number (.whole scale)) = checkFactor room scale := by
  have more : (Number.whole scale).isAtMost 1 = false := decide_eq_false (by omega)
  have number : (Number.whole scale).toFloat.isNaN = false := FloatRange.isNaN_ofInt scale
  simp only [factor, more, number, Bool.or_self, Bool.false_eq_true, if_false, Number.truncate?]

theorem factor_whole (enlarges : 1 ≤ scale) (holds : room.HoldsImage scale) :
    factor room (.number (.whole scale)) = .ok scale := by
  rcases Int.lt_or_eq_of_le enlarges with above | rfl
  · have rows : 6144 * scale ≤ room.bytes := by
      have more : 6144 * scale * 1 ≤ 6144 * scale * scale :=
        Int.mul_le_mul_of_nonneg_left enlarges (by omega)
      exact Int.le_trans (by omega) holds
    have countable := room.countable
    have word : Input.isInt64 scale = true := by simp [Input.isInt64]; omega
    rw [factor_of_one_lt above, checkFactor, word, Room.check_eq_ok_iff.mpr rows,
      Room.check_eq_ok_iff.mpr holds]
    rfl
  · rfl

def IsTooLarge (error : RenderError) : Prop :=
  error = .scaleTooLarge ∨ ∃ reason, error = .imageTooLarge reason

theorem factor_whole_or (room : Room) (enlarges : 1 ≤ scale) :
    factor room (.number (.whole scale)) = .ok scale ∨
      ∃ error, factor room (.number (.whole scale)) = .error error ∧ IsTooLarge error := by
  rcases Int.lt_or_eq_of_le enlarges with above | rfl
  · rw [factor_of_one_lt above, checkFactor]
    split
    · exact .inr ⟨_, rfl, .inl rfl⟩
    · split
      · exact .inr ⟨_, rfl, .inr ⟨_, rfl⟩⟩
      · exact .inr ⟨_, rfl, .inr ⟨_, rfl⟩⟩
      · exact .inl rfl
  · exact .inl rfl

end Picture
end Chip8
