import Chip8.Input

/-! # Whole numbers as input -/

namespace Chip8.Input

theorem integerWithin_whole (fits : Int → Bool) (whole : Int) :
    integerWithin fits (.number (.whole whole)) =
      if fits whole then .ok whole else .error .outOfRange := rfl

theorem count_whole (whole : Int) :
    count (.number (.whole whole)) =
      if isInt32 whole then .ok whole else .error .outOfRange := by
  rw [count]
  · exact integerWithin_whole isInt32 whole
  all_goals simp

theorem eq_of_count_whole {whole steps : Int}
    (accepted : count (.number (.whole whole)) = .ok steps) : steps = whole := by
  rw [count_whole] at accepted
  split at accepted
  · exact (Except.ok.inj accepted).symm
  · cases accepted

end Chip8.Input
