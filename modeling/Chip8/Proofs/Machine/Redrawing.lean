import Mathlib.Data.Finset.SymmDiff
import Mathlib.Data.Fintype.Card
import Mathlib.Order.SymmDiff
import Chip8.Proofs.Machine.Sprites

namespace Chip8

open scoped symmDiff

theorem card_symmDiff_add {Place : Type*} [DecidableEq Place] (left right : Finset Place) :
    (left ∆ right).card + 2 * (left ∩ right).card = left.card + right.card := by
  have parts : (left ∆ right).card = (left \ right).card + (right \ left).card :=
    Finset.card_union_of_disjoint disjoint_sdiff_sdiff
  have leftParts := Finset.card_sdiff_add_card_inter left right
  have rightParts := Finset.card_sdiff_add_card_inter right left
  rw [Finset.inter_comm right] at rightParts
  omega

namespace Screen

def lit (screen : Screen) : Finset Position := {place | screen.isLit place}

theorem mem_lit (screen : Screen) (place : Position) :
    place ∈ screen.lit ↔ screen.isLit place := by
  simp [lit]

theorem eq_of_lit {screen other : Screen} (same : screen.lit = other.lit) : screen = other := by
  obtain ⟨pixels⟩ := screen
  obtain ⟨others⟩ := other
  congr 1
  apply Vector.ext
  intro place inside
  have at_place := congrArg (⟨place, inside⟩ ∈ ·) same
  simpa [mem_lit, isLit] using at_place

theorem litCount_eq_card (screen : Screen) : screen.litCount = screen.lit.card := by
  have pixels : screen.pixels.toList = (List.finRange 2048).map screen.isLit := by
    apply List.ext_getElem
    · simp
    · intro place inside _
      simp [isLit]
  have members : screen.lit = screen.litPlaces.toFinset := by
    ext place
    simp [lit, litPlaces]
  rw [members, litPlaces, List.toFinset_card_of_nodup ((List.nodup_finRange 2048).filter _),
    litCount, pixels, List.count, List.countP_map, List.countP_eq_length_filter]
  simp only [Function.comp_def, beq_true]

end Screen

namespace Sprite

def rowSize (byte : UInt8) : Nat :=
  (List.range 8).countP fun column => byte.toNat.testBit (7 - column)

def size : List UInt8 → Nat
  | [] => 0
  | byte :: rest => rowSize byte + size rest

theorem length_places (x y : Nat) (rows : List UInt8) : (places x y rows).length = size rows := by
  induction rows generalizing y with
  | nil => rfl
  | cons byte rest ih =>
      rw [places, List.length_append, ih, size, rowPlaces, List.length_map, rowSize,
        List.countP_eq_length_filter]

end Sprite

namespace Machine

def spriteArea (machine : Machine) (word : Word) : Finset Position :=
  {place | Sprite.Covers (machine.v word.x).toNat (machine.v word.y).toNat
    (machine.spriteRows word.n) place}

variable {word other : Word}

theorem mem_spriteArea (machine : Machine) (word : Word) (place : Position) :
    place ∈ machine.spriteArea word ↔
      Sprite.Covers (machine.v word.x).toNat (machine.v word.y).toNat
        (machine.spriteRows word.n) place := by
  simp [spriteArea]

theorem card_spriteArea (machine : Machine) (word : Word) :
    (machine.spriteArea word).card = Sprite.size (machine.spriteRows word.n) := by
  -- No two bits land on one place, so counting places is counting bits.
  have distinct := Sprite.places_nodup (machine.v word.x).toNat (machine.v word.y).toNat
    (machine.length_spriteRows_le word)
  have members : machine.spriteArea word =
      (Sprite.places (machine.v word.x).toNat (machine.v word.y).toNat
        (machine.spriteRows word.n)).toFinset := by
    ext place
    rw [mem_spriteArea, List.mem_toFinset, Sprite.mem_places]
  rw [members, List.toFinset_card_of_nodup distinct, Sprite.length_places]

theorem execute_draw_lit (form : word.HasForm (.first 0xD000)) (machine : Machine) :
    (machine.execute (decode word)).screen.lit = machine.screen.lit ∆ machine.spriteArea word := by
  have short : word.n ≤ 32 := Nat.le_trans (Nat.le_of_lt word.n_lt) (by decide)
  ext place
  have drawn := machine.drawSprite_isLit word.x word.y short place
  rw [decode_draw form, execute, Screen.mem_lit, drawn, Finset.mem_symmDiff, Screen.mem_lit,
    mem_spriteArea]
  cases machine.screen.isLit place <;> simp

theorem execute_draw_flag (form : word.HasForm (.first 0xD000)) (machine : Machine) :
    (machine.execute (decode word)).v flagRegister =
      if (machine.screen.lit ∩ machine.spriteArea word).Nonempty then 1 else 0 := by
  rw [decode_draw form, execute, drawSprite_flag]
  simp only [Finset.Nonempty, Finset.mem_inter, Screen.mem_lit, mem_spriteArea]

theorem spriteArea_execute_draw (form : word.HasForm (.first 0xD000))
    (apart : other.x ≠ flagRegister ∧ other.y ≠ flagRegister) (machine : Machine) :
    (machine.execute (decode word)).spriteArea other = machine.spriteArea other := by
  rw [decode_draw form]
  have kept (register : Register) (differs : register ≠ flagRegister) :
      (machine.drawSprite word.x word.y word.n).v register = machine.v register := by
    have spared : Field.register register ≠ .register flagRegister := by simpa using differs
    exact setFlag_agreesOn spared _ _
  have rows : (machine.drawSprite word.x word.y word.n).spriteRows other.n =
      machine.spriteRows other.n := rfl
  rw [execute, spriteArea, kept other.x apart.1, kept other.y apart.2, rows]
  rfl

/-- Drawing a sprite again takes it away, and then the flag tells whether some pixel of it was dark
at first; two sprites may be drawn in either order; and drawing adds the pixels of the sprite to the
lit ones but for those that were lit already, which it switches off. A corner that drawing itself
overwrites with its flag is left out. The size of a sprite is the number of its set bits. -/
theorem drawings_cancel (machine : Machine) {word other : Word}
    (form : word.HasForm (.first 0xD000)) (otherForm : other.HasForm (.first 0xD000))
    (apart : word.x ≠ flagRegister ∧ word.y ≠ flagRegister)
    (otherApart : other.x ≠ flagRegister ∧ other.y ≠ flagRegister) :
    let drawn := machine.execute (decode word)
    let redrawn := drawn.execute (decode word)
    let sprite := machine.spriteArea word
    let overlap := (machine.screen.lit ∩ sprite).card
    (redrawn.screen = machine.screen ∧
      redrawn.v flagRegister =
        if ∃ place ∈ sprite, machine.screen.isLit place = false then 1 else 0) ∧
    (drawn.execute (decode other)).screen =
      ((machine.execute (decode other)).execute (decode word)).screen ∧
    ((drawn.screen.litCount : Int) = machine.screen.litCount + sprite.card - 2 * overlap ∧
      sprite.card = Sprite.size (machine.spriteRows word.n) ∧
      drawn.v flagRegister = if 0 < overlap then 1 else 0) := by
  intro drawn redrawn sprite overlap
  have drawnLit : drawn.screen.lit = machine.screen.lit ∆ sprite := execute_draw_lit form machine
  have sameSprite : drawn.spriteArea word = sprite := spriteArea_execute_draw form apart machine
  refine ⟨⟨?_, ?_⟩, ?_, ?_, machine.card_spriteArea word, ?_⟩
  · apply Screen.eq_of_lit
    calc redrawn.screen.lit
        = drawn.screen.lit ∆ drawn.spriteArea word := execute_draw_lit form drawn
      _ = machine.screen.lit ∆ sprite ∆ sprite := by rw [drawnLit, sameSprite]
      _ = machine.screen.lit := symmDiff_symmDiff_cancel_right _ _
  · -- A pixel of the sprite is lit after the first drawing exactly if it was dark before.
    have dark : ((machine.screen.lit ∆ sprite) ∩ sprite).Nonempty ↔
        ∃ place ∈ sprite, machine.screen.isLit place = false := by
      refine exists_congr fun place => ?_
      rw [Finset.mem_inter, Finset.mem_symmDiff, Screen.mem_lit]
      cases machine.screen.isLit place <;> simp
    have flag : redrawn.v flagRegister = _ := execute_draw_flag form drawn
    rw [flag, drawnLit, sameSprite]
    simp only [dark]
  · apply Screen.eq_of_lit
    rw [execute_draw_lit otherForm, execute_draw_lit form, execute_draw_lit form,
      execute_draw_lit otherForm, spriteArea_execute_draw form otherApart,
      spriteArea_execute_draw otherForm apart, symmDiff_right_comm]
  · have counted := card_symmDiff_add machine.screen.lit sprite
    rw [Screen.litCount_eq_card, Screen.litCount_eq_card, drawnLit]
    omega
  · rw [execute_draw_flag form]
    simp only [overlap, Finset.card_pos]
    rfl

theorem drawings_cancel_of_digits :
    let machine := { ((powerOn ⟨0, 0⟩).setV 1 62).setV 2 30 with
      screen := Screen.dark.toggle (Screen.position 62 30) }
    let drawn := machine.execute (decode 0xD125)
    let redrawn := drawn.execute (decode 0xD125)
    Word.HasForm 0xD125 (.first 0xD000) ∧ Word.HasForm 0xD015 (.first 0xD000) ∧
      redrawn.screen = machine.screen ∧ redrawn.v flagRegister = 1 ∧
      (drawn.execute (decode 0xD015)).screen =
        ((machine.execute (decode 0xD015)).execute (decode 0xD125)).screen ∧
      drawn.screen.litCount = 13 ∧ drawn.v flagRegister = 1 := by
  intro machine drawn redrawn
  have form : Word.HasForm 0xD125 (.first 0xD000) := by decide
  have otherForm : Word.HasForm 0xD015 (.first 0xD000) := by decide
  obtain ⟨⟨restored, flag⟩, ordered, counted, size, collided⟩ :=
    drawings_cancel machine form otherForm (by decide) (by decide)
  have lit : machine.screen.lit = {Screen.position 62 30} := by
    ext place
    rw [Screen.mem_lit, Screen.isLit_toggle]
    simp [Screen.isLit, Screen.dark]
  have corner : Screen.position 62 30 ∈ machine.spriteArea 0xD125 := by
    rw [mem_spriteArea]
    decide +kernel
  have besides : Screen.position 63 30 ∈ machine.spriteArea 0xD125 := by
    rw [mem_spriteArea]
    decide +kernel
  have overlap : machine.screen.lit ∩ machine.spriteArea 0xD125 = {Screen.position 62 30} := by
    rw [lit, Finset.inter_eq_left, Finset.singleton_subset_iff]
    exact corner
  have rows : Sprite.size (machine.spriteRows (Word.n 0xD125)) = 14 := by decide +kernel
  refine ⟨form, otherForm, restored, flag.trans (if_pos ⟨_, besides, by decide +kernel⟩), ordered,
    ?_, ?_⟩
  · refine Int.ofNat_inj.mp (counted.trans ?_)
    rw [size, rows, overlap, Screen.litCount_eq_card, lit, Finset.card_singleton]
    rfl
  · rw [overlap] at collided
    exact collided.trans (if_pos Nat.one_pos)

end Machine
end Chip8
