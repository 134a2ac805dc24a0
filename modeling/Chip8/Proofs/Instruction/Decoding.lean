import Mathlib.Data.List.Pairwise
import Chip8.Instruction.Decode

namespace Chip8

namespace Word

def IsCall (word : Word) : Prop := word &&& 0xF000 = 0x2000

def IsReturn (word : Word) : Prop := word = 0x00EE

instance (word : Word) : Decidable word.IsCall := inferInstanceAs (Decidable (_ = _))

instance (word : Word) : Decidable word.IsReturn := inferInstanceAs (Decidable (_ = _))

end Word

theorem Pattern.fits_iff (pattern : Pattern) (word : Word) :
    pattern.fits word ↔ word &&& pattern.mask = pattern.bits := by
  simp [Pattern.fits]

private theorem shared_bits (word left right : UInt16) :
    ((word &&& left) ^^^ (word &&& right)) &&& (left &&& right) = 0 := by
  apply UInt16.toBitVec_inj.mp
  simp only [UInt16.toBitVec_and, UInt16.toBitVec_xor, UInt16.toBitVec_zero]
  ext place inside
  simp only [BitVec.getElem_and, BitVec.getElem_xor, BitVec.getElem_zero]
  cases word.toBitVec[place] <;> cases left.toBitVec[place] <;> cases right.toBitVec[place] <;> rfl

theorem fits_unique {left right : Pattern} {word : Word} (leftMember : left ∈ patterns)
    (rightMember : right ∈ patterns) (leftFits : left.fits word) (rightFits : right.fits word) :
    left = right := by
  by_contra differ
  have symmetric : Std.Symm fun left right : Pattern =>
      (left.bits ^^^ right.bits) &&& (left.mask &&& right.mask) ≠ 0 := by
    constructor
    intro left right apart
    rwa [UInt16.xor_comm, UInt16.and_comm right.mask]
  have apart := patterns_exclusive.forall leftMember rightMember differ
  rw [Pattern.fits_iff] at leftFits rightFits
  rw [← leftFits, ← rightFits] at apart
  exact apart (shared_bits word left.mask right.mask)

theorem decode_of_fits {pattern : Pattern} {word : Word} (member : pattern ∈ patterns)
    (fits : pattern.fits word) : decode word = pattern.build word := by
  unfold decode
  cases found : patterns.find? (·.fits word) with
  | none => exact absurd fits (List.find?_eq_none.mp found pattern member)
  | some first =>
      have firstFits : first.fits word := (List.find?_eq_some_iff_append.mp found).1
      rw [fits_unique (List.mem_of_find?_eq_some found) member firstFits fits]

theorem decode_cases (word : Word) :
    (∃ pattern ∈ patterns, pattern.fits word ∧ decode word = pattern.build word) ∨
      ((∀ pattern ∈ patterns, ¬ pattern.fits word) ∧ decode word = .noop) := by
  unfold decode
  cases found : patterns.find? (·.fits word) with
  | none => exact .inr ⟨fun pattern member => List.find?_eq_none.mp found pattern member, rfl⟩
  | some pattern =>
      have fits : pattern.fits word := (List.find?_eq_some_iff_append.mp found).1
      exact .inl ⟨pattern, List.mem_of_find?_eq_some found, fits, rfl⟩

theorem decode_of_fits_none {word : Word} (fitsNone : ∀ pattern ∈ patterns, ¬ pattern.fits word) :
    decode word = .noop := by
  rcases decode_cases word with ⟨pattern, member, fits, _⟩ | ⟨_, nothing⟩
  · exact absurd fits (fitsNone pattern member)
  · exact nothing

end Chip8
