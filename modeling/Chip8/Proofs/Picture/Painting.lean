import Chip8.Player.Drawing
import Chip8.Proofs.Picture.Rendering

/-!
# Painted windows

Strokes are painted over what a window shows, one after the other (`Image.draw`). The strokes of a
screen fill the window first and then paint a square for each lit pixel. No two squares meet and
none leaves the window, and what is shown in the end is the rendered image (`painted_as_rendered`).
-/

namespace Chip8

/-! ## Rectangles -/

namespace Rectangle

/-- The points of a rectangle; its right and lower edges do not belong to it. -/
def Contains (area : Rectangle) (column row : Int) : Prop :=
  (area.left ≤ column ∧ column < area.left + area.width) ∧
    area.top ≤ row ∧ row < area.top + area.height

instance (area : Rectangle) (column row : Int) : Decidable (area.Contains column row) :=
  inferInstanceAs (Decidable (_ ∧ _))

def Apart (area other : Rectangle) : Prop :=
  ∀ column row, area.Contains column row → ¬ other.Contains column row

def Within (area : Rectangle) (height width : Int) : Prop :=
  (0 ≤ area.left ∧ area.left + area.width ≤ width) ∧
    0 ≤ area.top ∧ area.top + area.height ≤ height

theorem contains_ofPixel {scale : Nat} (positive : 0 < scale) (x y : Nat) (column row : Int) :
    (ofPixel (.whole scale) x y).Contains column row ↔
      column / scale = x ∧ row / scale = y := by
  have above : (0 : Int) < scale := by omega
  have side (place : Nat) (point : Int) :
      (place * scale ≤ point ∧ point < place * scale + (1 : Nat) * scale) ↔
        point / scale = place := by
    rw [Int.ediv_eq_iff_of_pos above, Int.natCast_one, Int.one_mul]
  simp only [Contains, ofPixel, scaledWidth_whole, side]

end Rectangle

/-! ## Strokes -/

def Stroke.area? {Paint : Type} : Stroke Paint → Option Rectangle
  | .fill _ => none
  | .rectangle area _ => some area

namespace Image

def mapPlaces (image : Image) (change : Nat → Nat → Color → Color) : Image :=
  ⟨image.rows.mapIdx fun row line => line.mapIdx fun column color => change row column color⟩

def draw (image : Image) : Stroke Color → Image
  | .fill paint => image.mapPlaces fun _ _ _ => paint
  | .rectangle area paint =>
      image.mapPlaces fun row column color =>
        if area.Contains column row then paint else color

theorem mapPlaces_ofPlaces (height width : Nat) (color : Nat → Nat → Color)
    (change : Nat → Nat → Color → Color) :
    (ofPlaces height width color).mapPlaces change =
      ofPlaces height width fun row column => change row column (color row column) := by
  have indexed {Item Other : Type} (count : Nat) (item : Nat → Item) (turn : Nat → Item → Other) :
      ((List.range count).map item).mapIdx turn =
        (List.range count).map fun index => turn index (item index) :=
    List.ext_getElem (by simp) (by simp)
  simp only [mapPlaces, ofPlaces, indexed]

theorem draw_fill {image : Image} {height width : Nat} (size : image.HasSize height width)
    (paint : Color) :
    image.draw (.fill paint) = ofPlaces height width fun _ _ => paint := by
  obtain ⟨rows, columns⟩ := size
  refine congrArg Image.mk (List.ext_getElem (by simpa using rows) fun row inside _ => ?_)
  rw [List.length_mapIdx] at inside
  have length : image.rows[row].length = width := columns _ (List.getElem_mem inside)
  exact List.ext_getElem (by simpa using length) (by simp)

theorem foldl_draw_rectangles (areas : List Rectangle) (paint : Color) (height width : Nat)
    (color : Nat → Nat → Color) :
    (areas.map fun area => Stroke.rectangle area paint).foldl draw (ofPlaces height width color) =
      ofPlaces height width fun row column =>
        if ∃ area ∈ areas, area.Contains column row then paint else color row column := by
  induction areas generalizing color with
  | nil => simp
  | cons area rest ih =>
      rw [List.map_cons, List.foldl_cons, draw, mapPlaces_ofPlaces, ih]
      refine ofPlaces_congr fun row _ column _ => ?_
      -- What a later rectangle covers has its colour, which is that of this one.
      by_cases later : ∃ area ∈ rest, area.Contains column row
      · simp [later]
      · simp [later]

end Image

/-! ## Squares -/

namespace Screen
variable (screen : Screen) {scale : Nat}

def squares (scale : Nat) : List Rectangle :=
  screen.litPlaces.map fun place => .ofPixel (.whole scale) (place.val % 64) (place.val / 64)

theorem strokes_eq {Paint : Type} (on off : Paint) :
    screen.strokes (.whole scale) on off =
      .fill off :: (screen.squares scale).map fun area => .rectangle area on := by
  rw [strokes, squares, List.map_map]
  rfl

theorem areas_strokes {Paint : Type} (on off : Paint) :
    (screen.strokes (.whole scale) on off).filterMap Stroke.area? = screen.squares scale := by
  rw [strokes_eq, List.filterMap_cons, Stroke.area?, List.filterMap_map]
  exact List.filterMap_some

theorem mem_litPlaces (place : Position) : place ∈ screen.litPlaces ↔ screen.isLit place := by
  simp [litPlaces]

theorem eq_position_iff (place : Position) {x y : Nat} (left : x < 64) (upper : y < 32) :
    x = place.val % 64 ∧ y = place.val / 64 ↔ place = position x y := by
  simp only [position, Fin.ext_iff]
  omega

theorem exists_square_iff (positive : 0 < scale) {row column : Nat} (rowInside : row < 32 * scale)
    (columnInside : column < 64 * scale) :
    (∃ square ∈ screen.squares scale, square.Contains column row) ↔
      screen.isLit (position (column / scale) (row / scale)) := by
  have x : column / scale < 64 := (Nat.div_lt_iff_lt_mul positive).mpr columnInside
  have y : row / scale < 32 := (Nat.div_lt_iff_lt_mul positive).mpr rowInside
  have place_iff (place : Position) :
      (Rectangle.ofPixel (.whole scale) (place.val % 64) (place.val / 64)).Contains column row ↔
        place = position (column / scale) (row / scale) := by
    rw [Rectangle.contains_ofPixel positive, ← Int.natCast_ediv, ← Int.natCast_ediv,
      Int.natCast_inj, Int.natCast_inj]
    exact eq_position_iff place x y
  simp only [squares, List.mem_map, mem_litPlaces]
  constructor
  · rintro ⟨square, ⟨place, lit, rfl⟩, inside⟩
    rwa [(place_iff place).mp inside] at lit
  · intro lit
    exact ⟨_, ⟨_, lit, rfl⟩, (place_iff _).mpr rfl⟩

theorem squares_apart (positive : 0 < scale) :
    (screen.squares scale).Pairwise Rectangle.Apart := by
  have distinct : screen.litPlaces.Nodup := (List.nodup_finRange 2048).filter _
  refine List.pairwise_map.mpr (distinct.imp fun {place other} differ => ?_)
  intro column row inside also
  rw [Rectangle.contains_ofPixel positive] at inside also
  exact differ (Fin.ext (by omega))

theorem squares_within (scale : Nat) :
    ∀ square ∈ screen.squares scale, square.Within (32 * scale) (64 * scale) := by
  intro square member
  obtain ⟨place, -, rfl⟩ := List.mem_map.mp member
  have side (index count : Nat) (inside : index < count) :
      0 ≤ (index * scale : Int) ∧ (index * scale + (1 : Nat) * scale : Int) ≤ count * scale := by
    rw [← Int.add_mul]
    exact ⟨Int.mul_nonneg (by omega) (by omega),
      Int.mul_le_mul_of_nonneg_right (by omega) (by omega)⟩
  simp only [Rectangle.Within, Rectangle.ofPixel, scaledWidth_whole]
  exact ⟨side (place.val % 64) 64 (by omega), side (place.val / 64) 32 (by omega)⟩

theorem foldl_draw_strokes (positive : 0 < scale) {window : Image}
    (size : window.HasSize (32 * scale) (64 * scale)) (palette : Palette) :
    (screen.strokes (.whole scale) palette.on palette.off).foldl Image.draw window =
      screen.render scale palette := by
  rw [strokes_eq, List.foldl_cons, Image.draw_fill size, Image.foldl_draw_rectangles,
    render_eq screen positive]
  refine Image.ofPlaces_congr fun row rowInside column columnInside => ?_
  simp only [exists_square_iff screen positive rowInside columnInside]

end Screen

/-! ## The main statement -/

/-- A rendered screen has a square of the scale for each pixel, lit or dark, wherever its row and
column put it. Arguments that stand for the screen, the scale and the colours give this image
wherever there is memory for it, and are refused as too large otherwise. The strokes of the screen
paint it, too, whatever the window showed before: their rectangles do not overlap, and none reaches
outside the window. A scale of zero or less is taken as one. -/
theorem painted_as_rendered (room : Room) (screen : Screen) (palette : Palette) :
    (∀ scale : Nat, 0 < scale →
      let image := screen.render scale palette
      let rendered := Picture.render room (.ofScreen screen) (.number (.whole scale))
        palette.on.toValue palette.off.toValue
      let strokes := screen.strokes (.whole scale) palette.on palette.off
      let rectangles := strokes.filterMap Stroke.area?
      (image.HasSize (32 * scale) (64 * scale) ∧
        ∀ row < 32 * scale, ∀ column < 64 * scale, ∃ place : Position,
          place.val = row / scale * 64 + column / scale ∧
            image.colorAt? row column =
              some (if screen.isLit place then palette.on else palette.off)) ∧
      ((room.HoldsImage scale → rendered = .ok image) ∧
        (rendered = .ok image ∨
          ∃ error, rendered = .error error ∧ Picture.IsTooLarge error)) ∧
      (∀ window : Image, window.HasSize (32 * scale) (64 * scale) →
        strokes.foldl Image.draw window = image) ∧
      rectangles.Pairwise Rectangle.Apart ∧
      ∀ rectangle ∈ rectangles, rectangle.Within (32 * scale) (64 * scale)) ∧
    ∀ scale : Int, scale ≤ 0 →
      Picture.render room (.ofScreen screen) (.number (.whole scale)) palette.on.toValue
        palette.off.toValue = .ok (screen.render 1 palette) := by
  refine ⟨fun scale positive => ?_, fun scale small => ?_⟩
  · intro image rendered strokes rectangles
    have enlarges : (1 : Int) ≤ scale := by omega
    have areas : rectangles = screen.squares scale := screen.areas_strokes palette.on palette.off
    have places : image = _ := screen.render_eq positive palette
    refine ⟨⟨?_, fun row rowInside column columnInside => ?_⟩, ?_,
      fun window size => screen.foldl_draw_strokes positive size palette, ?_, ?_⟩
    · rw [places]
      exact Image.hasSize_ofPlaces _ _ _
    · have x : column / scale < 64 := (Nat.div_lt_iff_lt_mul positive).mpr columnInside
      have y : row / scale < 32 := (Nat.div_lt_iff_lt_mul positive).mpr rowInside
      refine ⟨Screen.position (column / scale) (row / scale), ?_, ?_⟩
      · simp only [Screen.position, Nat.mod_eq_of_lt x, Nat.mod_eq_of_lt y]
      · rw [places, Image.colorAt?_ofPlaces _ rowInside columnInside]
    · have same : rendered = _ :=
        Picture.render_ofScreen room screen (.number (.whole scale)) palette
      rw [same]
      refine ⟨fun holds => by rw [Picture.factor_whole enlarges holds]; rfl, ?_⟩
      rcases Picture.factor_whole_or room enlarges with accepted | ⟨error, refused, tooLarge⟩
      · exact .inl (by rw [accepted]; rfl)
      · exact .inr ⟨error, by rw [refused]; rfl, tooLarge⟩
    · rw [areas]
      exact screen.squares_apart positive
    · rw [areas]
      exact screen.squares_within scale
  · rw [Picture.render_ofScreen, Picture.factor_of_le_one (by omega)]
    rfl

theorem painted_as_rendered_of_corner :
    let screen := Screen.dark.toggle (Screen.position 63 31)
    let palette : Palette := ⟨⟨255, 176, 0⟩, ⟨0, 0, 64⟩⟩
    let image := screen.render 3 palette
    let room : Room := ⟨1048576, by decide⟩
    Picture.render room (.ofScreen screen) (.number (.whole 3)) palette.on.toValue
        palette.off.toValue = .ok image ∧
      image.colorAt? 93 189 = some ⟨255, 176, 0⟩ ∧ image.colorAt? 92 189 = some ⟨0, 0, 64⟩ ∧
      (screen.strokes (.whole 3) palette.on palette.off).foldl Image.draw
        (.ofPlaces 96 192 fun _ _ => ⟨0, 0, 0⟩) = image := by
  intro screen palette image room
  obtain ⟨⟨-, shades⟩, ⟨rendered, -⟩, painted, -⟩ :=
    (painted_as_rendered room screen palette).1 3 (by decide)
  obtain ⟨corner, cornerPlace, cornerColor⟩ := shades 93 (by decide) 189 (by decide)
  obtain ⟨above, abovePlace, aboveColor⟩ := shades 92 (by decide) 189 (by decide)
  have lit : screen.isLit corner = true := by
    obtain rfl : corner = ⟨2047, by decide⟩ := Fin.ext cornerPlace
    decide +kernel
  have dark : screen.isLit above = false := by
    obtain rfl : above = ⟨1983, by decide⟩ := Fin.ext abovePlace
    decide +kernel
  rw [lit] at cornerColor
  rw [dark] at aboveColor
  exact ⟨rendered (by decide), cornerColor, aboveColor, painted _ (Image.hasSize_ofPlaces _ _ _)⟩

end Chip8
