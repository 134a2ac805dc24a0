import Chip8.Log.Session
import Chip8.Proofs.Checks
import Chip8.Proofs.Decimal.FloatRange

namespace Chip8

namespace Number

/-- As a whole number it is at most so far from zero. -/
def UpTo (bound : Nat) (number : Number) : Prop :=
  ∀ whole, number.toInt? = some whole → whole.natAbs ≤ bound

/-- Far below the largest floating-point number, far above whatever is counted. -/
def limit : Nat := 2 ^ 200

theorem UpTo.mono {bound larger : Nat} {number : Number} (upTo : number.UpTo bound)
    (below : bound ≤ larger) : number.UpTo larger :=
  fun whole same => Nat.le_trans (upTo whole same) below

theorem upTo_whole (amount : Nat) : (whole amount).UpTo amount := by
  intro same found
  cases found
  exact Nat.le_refl amount

theorem UpTo.real?_isSome {bound : Nat} {number : Number} (upTo : number.UpTo bound)
    (below : bound ≤ limit) : number.real?.isSome := by
  refine Number.real?_isSome fun whole same => FloatRange.log2_le ?_
  have small : whole.natAbs ≤ limit := Nat.le_trans (upTo whole same) below
  exact Nat.lt_of_le_of_lt small (Nat.pow_lt_pow_succ (by decide))

theorem UpTo.combine? {left right : Number} {bound rightBound : Nat} {exact : Int → Int → Int}
    (rounded : Float → Float → Float) (upTo : left.UpTo bound) (rightUpTo : right.UpTo rightBound)
    (below : bound + rightBound ≤ limit)
    (within : ∀ a b : Int, (exact a b).natAbs ≤ a.natAbs + b.natAbs) :
    ∃ result, left.combine? exact rounded right = some result ∧
      result.UpTo (bound + rightBound) := by
  unfold Number.combine?
  split
  · rename_i a b leftWhole rightWhole
    refine ⟨_, rfl, fun whole same => ?_⟩
    cases same
    exact Nat.le_trans (within a b)
      (Nat.add_le_add (upTo a leftWhole) (rightUpTo b rightWhole))
  · obtain ⟨x, leftReal⟩ := Option.isSome_iff_exists.mp (upTo.real?_isSome (by omega))
    obtain ⟨y, rightReal⟩ := Option.isSome_iff_exists.mp (rightUpTo.real?_isSome (by omega))
    refine ⟨.real (rounded x y), by simp [leftReal, rightReal], fun whole same => ?_⟩
    cases same

theorem UpTo.add? {left right : Number} {bound rightBound : Nat} (upTo : left.UpTo bound)
    (rightUpTo : right.UpTo rightBound) (below : bound + rightBound ≤ limit) :
    ∃ sum, left.add? right = some sum ∧ sum.UpTo (bound + rightBound) :=
  upTo.combine? (· + ·) rightUpTo below Int.natAbs_add_le

theorem UpTo.sub? {left right : Number} {bound rightBound : Nat} (upTo : left.UpTo bound)
    (rightUpTo : right.UpTo rightBound) (below : bound + rightBound ≤ limit) :
    ∃ difference, left.sub? right = some difference ∧ difference.UpTo (bound + rightBound) :=
  upTo.combine? (· - ·) rightUpTo below Int.natAbs_sub_le

end Number

/-- A clock with a rate for every number that is not too large. -/
class LawfulClock (Time : Type) [Clock Time] : Prop where
  rate?_isSome : ∀ {amount : Number}, amount.UpTo Number.limit →
    ∀ elapsed : Time, (Clock.rate? amount elapsed).isSome

instance : LawfulClock Float where
  rate?_isSome upTo elapsed := by
    simpa [Clock.rate?] using upTo.real?_isSome (Nat.le_refl _)

namespace SessionLog
variable {Time : Type}

theorem count_whole {log : SessionLog Time} {executed shown : Int}
    (instructions : log.instructions = .whole executed) (frames : log.frames = .whole shown)
    (work rounds : Int) :
    log.count (.number (.whole work)) (.number (.whole rounds)) =
      ({ log with
        instructions := .whole (executed + work), frames := .whole (shown + rounds) }, none) := by
  simp only [count, increase, instructions, frames, Number.add?_whole]

structure Counts (log : SessionLog Time) (executed shown : Nat) : Prop where
  instructions : log.instructions.UpTo executed
  frames : log.frames.UpTo shown
  windowInstructions : log.windowInstructions.UpTo executed
  windowFrames : log.windowFrames.UpTo shown

theorem counts_start? [Clock Time] {log : SessionLog Time} {options : LogOptions}
    {interval : Time} {terminal : Bool} {now : Reading Time}
    (opened : start? options interval terminal now = .ok log) : log.Counts 0 0 := by
  obtain ⟨console, -, made⟩ := of_bind_ok opened
  cases made
  exact ⟨Number.upTo_whole 0, Number.upTo_whole 0, Number.upTo_whole 0, Number.upTo_whole 0⟩

variable {log : SessionLog Time} {executed shown work rounds : Nat}
  {instructions frames : Number}

theorem Counts.count (counts : log.Counts executed shown) (workBound : instructions.UpTo work)
    (roundBound : frames.UpTo rounds) (below : executed + work ≤ Number.limit)
    (framesBelow : shown + rounds ≤ Number.limit) :
    ∃ next, log.count (.number instructions) (.number frames) = (next, none) ∧
      next.Counts (executed + work) (shown + rounds) := by
  obtain ⟨total, added, totalBound⟩ := counts.instructions.add? workBound below
  obtain ⟨totalFrames, addedFrames, frameBound⟩ := counts.frames.add? roundBound framesBelow
  refine ⟨{ log with instructions := total, frames := totalFrames }, ?_, totalBound, frameBound,
    counts.windowInstructions.mono (Nat.le_add_right _ _),
    counts.windowFrames.mono (Nat.le_add_right _ _)⟩
  simp only [SessionLog.count, increase, added, addedFrames]

variable [Clock Time] [LawfulClock Time]

theorem Counts.report (counts : log.Counts executed shown)
    (below : 2 * executed ≤ Number.limit) (framesBelow : 2 * shown ≤ Number.limit)
    (now : Reading Time) (elapsed : Time) :
    ∃ next text, log.report now elapsed = (next, .ok text) ∧ next.Counts executed shown := by
  obtain ⟨work, worked, workBound⟩ := counts.instructions.sub? counts.windowInstructions
    (by omega)
  obtain ⟨rounds, drawn, roundBound⟩ := counts.frames.sub? counts.windowFrames (by omega)
  obtain ⟨rate, rated⟩ := Option.isSome_iff_exists.mp
    (LawfulClock.rate?_isSome (workBound.mono (by omega)) elapsed)
  obtain ⟨frameRate, frameRated⟩ := Option.isSome_iff_exists.mp
    (LawfulClock.rate?_isSome (roundBound.mono (by omega)) elapsed)
  have written : ∃ text, (log.window? elapsed >>= log.throughputText?) = some text := by
    simp [window?, throughputText?, worked, drawn, rated, frameRated]
  obtain ⟨text, written⟩ := written
  refine ⟨log.closeWindow now, log.write now .debug text, ?_, ?_⟩
  · rw [SessionLog.report, written]
  · exact ⟨counts.instructions, counts.frames, counts.instructions, counts.frames⟩

theorem Counts.record (counts : log.Counts executed shown) (workBound : instructions.UpTo work)
    (roundBound : frames.UpTo rounds)
    (below : 2 * (executed + work) ≤ Number.limit)
    (framesBelow : 2 * (shown + rounds) ≤ Number.limit) (now : Reading Time) :
    ∃ next text, log.record now (.number instructions) (.number frames) = (next, .ok text) ∧
      next.Counts (executed + work) (shown + rounds) := by
  obtain ⟨counted, same, counts⟩ := counts.count workBound roundBound (by omega) (by omega)
  rw [SessionLog.record, same]
  dsimp only
  split
  · exact ⟨counted, "", rfl, counts⟩
  · rename_i elapsed due
    exact counts.report below framesBelow now elapsed

def CanCount (log : SessionLog Time) (work rounds : Nat) : Prop :=
  ∃ executed shown, log.Counts executed shown ∧
    2 * (executed + work) ≤ Number.limit ∧ 2 * (shown + rounds) ≤ Number.limit

omit [Clock Time] [LawfulClock Time] in
theorem CanCount.mono {moreWork moreRounds : Nat} (able : log.CanCount moreWork moreRounds)
    (workBound : work ≤ moreWork) (roundBound : rounds ≤ moreRounds) :
    log.CanCount work rounds := by
  obtain ⟨executed, shown, counts, below, framesBelow⟩ := able
  exact ⟨executed, shown, counts, by omega, by omega⟩

theorem CanCount.record {moreWork moreRounds : Nat}
    (able : log.CanCount (work + moreWork) (rounds + moreRounds))
    (workBound : instructions.UpTo work) (roundBound : frames.UpTo rounds) (now : Reading Time) :
    ∃ next text, log.record now (.number instructions) (.number frames) = (next, .ok text) ∧
      next.CanCount moreWork moreRounds := by
  obtain ⟨executed, shown, counts, below, framesBelow⟩ := able
  obtain ⟨next, text, recorded, nextCounts⟩ :=
    counts.record workBound roundBound (by omega) (by omega) now
  exact ⟨next, text, recorded, _, _, nextCounts, by omega, by omega⟩

end SessionLog
end Chip8
