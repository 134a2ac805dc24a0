import Mathlib.Data.List.Nodup
import Mathlib.Data.List.ProdSigma
import Chip8.Machine.Execute

namespace Chip8

namespace Screen

theorem isLit_toggle (screen : Screen) (place other : Position) :
    (screen.toggle place).isLit other = (screen.isLit other ^^ decide (other = place)) := by
  by_cases same : other = place
  · subst same
    simp [isLit, toggle]
  · have apart : place.val ≠ other.val := fun equal => same (Fin.ext equal.symm)
    simp [isLit, toggle, apart, same]

theorem isLit_toggleAll (screen : Screen) {places : List Position} (distinct : places.Nodup)
    (place : Position) :
    (screen.toggleAll places).isLit place = (screen.isLit place ^^ places.contains place) := by
  induction places generalizing screen with
  | nil => simp [toggleAll]
  | cons first rest ih =>
      obtain ⟨fresh, distinct⟩ := List.nodup_cons.mp distinct
      have later : (screen.toggleAll (first :: rest)).isLit place = _ :=
        ih (screen.toggle first) distinct
      rw [later, isLit_toggle, Bool.xor_assoc]
      by_cases same : place = first
      · simp [same, fresh]
      · simp [same]

theorem position_eq_iff (x y otherX otherY : Nat) :
    position x y = position otherX otherY ↔ x % 64 = otherX % 64 ∧ y % 32 = otherY % 32 := by
  simp only [position, Fin.ext_iff]
  omega

end Screen

namespace Sprite

/-- A set bit of the sprite at `x`, `y` lands at this place. -/
def Covers (x y : Nat) (rows : List UInt8) (place : Position) : Prop :=
  ∃ (row : Fin rows.length) (column : Fin 8),
    rows[row].toNat.testBit (7 - column) ∧ place = Screen.position (x + column) (y + row)

instance (x y : Nat) (rows : List UInt8) (place : Position) : Decidable (Covers x y rows place) :=
  inferInstanceAs (Decidable (∃ _ : Fin rows.length, ∃ _ : Fin 8, _))

theorem mem_rowPlaces (x y : Nat) (byte : UInt8) (place : Position) :
    place ∈ rowPlaces x y byte ↔
      ∃ column : Fin 8,
        byte.toNat.testBit (7 - column) ∧ place = Screen.position (x + column) y := by
  rw [rowPlaces, List.mem_map]
  constructor
  · rintro ⟨column, member, rfl⟩
    obtain ⟨inside, lit⟩ := List.mem_filter.mp member
    exact ⟨⟨column, List.mem_range.mp inside⟩, lit, rfl⟩
  · rintro ⟨column, lit, rfl⟩
    exact ⟨column, List.mem_filter.mpr ⟨List.mem_range.mpr column.isLt, lit⟩, rfl⟩

theorem mem_places (x y : Nat) (rows : List UInt8) (place : Position) :
    place ∈ places x y rows ↔ Covers x y rows place := by
  induction rows generalizing y with
  | nil => simp [places, Covers]
  | cons byte rest ih =>
      have below (row : Nat) : y + 1 + row = y + (row + 1) := by omega
      rw [places, List.mem_append, mem_rowPlaces, ih]
      constructor
      · rintro (⟨column, lit, rfl⟩ | ⟨row, column, lit, rfl⟩)
        · exact ⟨⟨0, Nat.zero_lt_succ _⟩, column, lit, rfl⟩
        · exact ⟨row.succ, column, lit, by rw [below]; rfl⟩
      · rintro ⟨⟨row, inside⟩, column, lit, rfl⟩
        cases row with
        | zero => exact .inl ⟨column, lit, rfl⟩
        | succ row => exact .inr ⟨⟨row, Nat.lt_of_succ_lt_succ inside⟩, column, lit, by rw [below]⟩

theorem rowPlaces_nodup (x y : Nat) (byte : UInt8) : (rowPlaces x y byte).Nodup := by
  refine List.Nodup.map_on ?_ (List.nodup_range.filter _)
  intro column member other otherMember same
  have inside := List.mem_range.mp (List.mem_of_mem_filter member)
  have otherInside := List.mem_range.mp (List.mem_of_mem_filter otherMember)
  have columns := ((Screen.position_eq_iff _ _ _ _).mp same).1
  omega

theorem places_nodup (x y : Nat) {rows : List UInt8} (short : rows.length ≤ 32) :
    (places x y rows).Nodup := by
  induction rows generalizing y with
  | nil => exact List.nodup_nil
  | cons byte rest ih =>
      rw [List.length_cons] at short
      refine (rowPlaces_nodup x y byte).append (ih (y + 1) (by omega)) ?_
      -- The row of a place tells which byte lit it, as fewer than 32 rows lie between two of them.
      intro place inFirst inRest
      obtain ⟨column, _, rfl⟩ := (mem_rowPlaces x y byte place).mp inFirst
      obtain ⟨row, otherColumn, _, same⟩ := (mem_places x (y + 1) rest _).mp inRest
      have rows := ((Screen.position_eq_iff _ _ _ _).mp same).2
      have inside := row.isLt
      omega

end Sprite

namespace Screen

theorem isLit_draw (screen : Screen) (x y : Nat) {rows : List UInt8} (short : rows.length ≤ 32)
    (place : Position) :
    (screen.draw x y rows).1.isLit place =
      (screen.isLit place ^^ decide (Sprite.Covers x y rows place)) := by
  have toggled := screen.isLit_toggleAll (Sprite.places_nodup x y short) place
  simp only [List.contains_eq_mem, Sprite.mem_places] at toggled
  exact toggled

theorem draw_collides (screen : Screen) (x y : Nat) (rows : List UInt8) :
    (screen.draw x y rows).2 =
      decide (∃ place, screen.isLit place ∧ Sprite.Covers x y rows place) := by
  rw [Bool.eq_iff_iff, decide_eq_true_iff, draw, List.any_eq_true]
  exact exists_congr fun place => by rw [Sprite.mem_places, and_comm]

end Screen

namespace Machine

theorem drawSprite_isLit (machine : Machine) (x y : Register) {height : Nat} (short : height ≤ 32)
    (place : Position) :
    (machine.drawSprite x y height).screen.isLit place =
      (machine.screen.isLit place ^^ decide (Sprite.Covers (machine.v x).toNat (machine.v y).toNat
        (machine.spriteRows height) place)) :=
  machine.screen.isLit_draw _ _ (by simpa [spriteRows] using short) place

theorem drawSprite_flag (machine : Machine) (x y : Register) (height : Nat) :
    (machine.drawSprite x y height).v flagRegister =
      if ∃ place, machine.screen.isLit place ∧ Sprite.Covers (machine.v x).toNat
        (machine.v y).toNat (machine.spriteRows height) place then 1 else 0 := by
  have collides := machine.screen.draw_collides (machine.v x).toNat (machine.v y).toNat
    (machine.spriteRows height)
  simp only [drawSprite, setFlag, v_setV, collides, decide_eq_true_eq, if_true]

end Machine

namespace Screen

def put (screen : Screen) (place : Position) (lit : Bool) : Screen :=
  ⟨screen.pixels.setIfInBounds place lit⟩

theorem isLit_put (screen : Screen) (place : Position) (lit : Bool) (other : Position) :
    (screen.put place lit).isLit other = if place = other then lit else screen.isLit other := by
  simp [put, isLit, Vector.getElem_setIfInBounds, Fin.ext_iff]

theorem isLit_foldl_put {Cell : Type} {place : Cell → Position} {lit : Cell → Bool}
    {cells : List Cell} (apart : cells.Pairwise fun cell later => place cell ≠ place later)
    (screen : Screen) (other : Position) :
    (cells.foldl (fun screen cell => screen.put (place cell) (lit cell)) screen).isLit other ↔
      (∃ cell ∈ cells, place cell = other ∧ lit cell) ∨
        screen.isLit other ∧ ∀ cell ∈ cells, place cell ≠ other := by
  induction cells generalizing screen with
  | nil => simp
  | cons first rest ih =>
      obtain ⟨fresh, apart⟩ := List.pairwise_cons.mp apart
      rw [List.foldl_cons, ih apart, isLit_put]
      by_cases here : place first = other
      · have others : ∀ cell ∈ rest, place cell ≠ other := fun cell member same =>
          fresh cell member (here.trans same.symm)
        rw [if_pos here, and_iff_left others]
        simp [here, or_comm]
      · simp [here]

end Screen

namespace Sprite

/-- A block of sixteen rows, of which the first `height` show, written to a dark screen. -/
def stencil (x y height : Nat) (block : Nat → UInt8) : Screen :=
  (List.finRange 16 ×ˢ List.finRange 8).foldl
    (fun screen cell =>
      screen.put (Screen.position (x + cell.2) (y + cell.1))
        (cell.1.val < height && (block cell.1).toNat.testBit (7 - cell.2)))
    .dark

theorem cells_apart (x y : Nat) :
    (List.finRange 16 ×ˢ List.finRange 8).Pairwise fun cell later =>
      Screen.position (x + cell.2) (y + cell.1) ≠ Screen.position (x + later.2) (y + later.1) := by
  have distinct : (List.finRange 16 ×ˢ List.finRange 8).Nodup :=
    (List.nodup_finRange 16).product (List.nodup_finRange 8)
  refine distinct.imp fun {cell later} apart same => apart ?_
  obtain ⟨columns, rows⟩ := (Screen.position_eq_iff _ _ _ _).mp same
  have row := cell.1.isLt
  have column := cell.2.isLt
  have laterRow := later.1.isLt
  have laterColumn := later.2.isLt
  exact Prod.ext (Fin.ext (by omega)) (Fin.ext (by omega))

theorem isLit_stencil (x y : Nat) {height : Nat} (short : height ≤ 16) (block : Nat → UInt8)
    (place : Position) :
    (stencil x y height block).isLit place ↔ Covers x y ((List.range height).map block) place := by
  have dark : Screen.dark.isLit place = false := Vector.getElem_replicate place.isLt
  rw [stencil, Screen.isLit_foldl_put (cells_apart x y), dark]
  simp only [Bool.false_eq_true, false_and, or_false, Bool.and_eq_true, decide_eq_true_eq]
  constructor
  · rintro ⟨⟨row, column⟩, -, rfl, shows, lit⟩
    exact ⟨⟨row, by simpa using shows⟩, column, by simpa using lit, rfl⟩
  · rintro ⟨⟨row, inside⟩, column, lit, rfl⟩
    rw [List.length_map, List.length_range] at inside
    exact ⟨⟨⟨row, by omega⟩, column⟩, by simp, rfl, inside, by simpa using lit⟩

end Sprite

namespace Machine

/-- Drawing may as well write a whole block of sixteen rows, the invisible ones dark, and then
toggle every pixel that is lit in it: what is lit in both was switched off. -/
theorem drawSprite_stencil (machine : Machine) (x y : Register) {height : Nat}
    (short : height ≤ 16) :
    let stencil := Sprite.stencil (machine.v x).toNat (machine.v y).toNat height fun row =>
      machine.memory.read ((machine.index.toNat + row) % Memory.size)
    let drawn := machine.drawSprite x y height
    (∀ place, drawn.screen.isLit place = (machine.screen.isLit place ^^ stencil.isLit place)) ∧
      drawn.v flagRegister =
        if ∃ place, machine.screen.isLit place ∧ stencil.isLit place then 1 else 0 := by
  intro stencil drawn
  have lit (place : Position) : stencil.isLit place = decide (Sprite.Covers (machine.v x).toNat
      (machine.v y).toNat (machine.spriteRows height) place) := by
    rw [Bool.eq_iff_iff, decide_eq_true_iff]
    exact Sprite.isLit_stencil _ _ short _ place
  constructor
  · intro place
    rw [lit]
    exact machine.drawSprite_isLit x y (by omega) place
  · rw [machine.drawSprite_flag x y height]
    simp only [lit, decide_eq_true_eq]

end Machine
end Chip8
