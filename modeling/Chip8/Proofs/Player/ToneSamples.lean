import Chip8.Player.Tone
import Chip8.Proofs.Checks
import Chip8.Proofs.Decimal.QuotientSize

namespace Chip8

/-- How far a number is from zero, unless it is infinite or none at all. -/
def Number.size? : Number → Option ℚ
  | .real value =>
      match Decimal.Binary.ofFloat value with
      | .finite _ magnitude => some (magnitude.significand * 2 ^ magnitude.exponent)
      | .infinite _ | .notANumber => none
  | number => number.toInt?.map fun whole => (whole.natAbs : ℚ)

theorem Number.size?_of_toInt? {number : Number} {whole : Int}
    (same : number.toInt? = some whole) : number.size? = some (whole.natAbs : ℚ) := by
  cases number with
  | real value => cases same
  | flag value | whole value =>
      cases same
      rfl

namespace Tone
open FloatSize Decimal Float.Model

variable {bound : ℚ}

theorem wholeOf_of_within {value : Float} (within : Within bound value.toModel.unpack)
    (nonneg : 0 ≤ bound) :
    ∃ whole, wholeOf value = .ok whole ∧ (whole.natAbs : ℚ) ≤ bound + 1 / 2 := by
  obtain ⟨negative, magnitude, found, small⟩ := ofFloat_of_within within nonneg
  have nearest := nearest_le magnitude.numerator magnitude.denominator_pos
  rw [← value_eq] at nearest
  unfold wholeOf
  rw [found]
  refine ⟨_, rfl, ?_⟩
  cases negative with
  | false => exact nearest.trans (by linarith)
  | true =>
      rw [if_pos rfl, Int.natAbs_neg]
      exact nearest.trans (by linarith)

theorem truncate?_of_within {value : Float} (within : Within bound value.toModel.unpack)
    (nonneg : 0 ≤ bound) :
    ∃ whole, (Binary.ofFloat value).truncate? = some whole ∧ (whole.natAbs : ℚ) ≤ bound := by
  obtain ⟨negative, magnitude, found, small⟩ := ofFloat_of_within within nonneg
  have floor := (floor_le magnitude).trans small
  rw [found]
  refine ⟨_, rfl, ?_⟩
  cases negative with
  | false => exact floor
  | true =>
      rw [if_pos rfl, Int.natAbs_neg]
      exact floor

/-! ## Periods -/

theorem realOf_whole {rate : Nat} (small : rate < 2 ^ 53) :
    realOf (.whole rate) = .ok (Float.ofInt rate) := by
  have finite : (Number.whole rate).real?.isSome := by
    refine Number.real?_isSome fun whole same => ?_
    cases same
    exact FloatRange.log2_le (small.trans (by decide))
  obtain ⟨real, found⟩ := Option.isSome_iff_exists.mp finite
  have same : real = Float.ofInt rate := by
    unfold Number.real? at found
    dsimp only at found
    split at found
    · cases found
    · exact (Option.some.inj found).symm
  unfold realOf
  rw [found, same]

theorem quotient_of_int (rate : Int) {frequency : Number} {whole : Int}
    (same : frequency.toInt? = some whole) :
    quotient (.whole rate) frequency =
      if whole = 0 then .error (.zeroFrequency true)
      else
        match quotient? rate whole with
        | some quotient => .ok quotient
        | none => .error .quotientTooLarge := by
  have rate_eq : (Number.whole rate).toInt? = some rate := rfl
  unfold quotient
  rewrite [rate_eq, same]
  rfl

theorem quotient_of_real {rate : Nat} (small : rate < 2 ^ 53) (value : Float) :
    quotient (.whole rate) (.real value) =
      if value == 0.0 then .error (.zeroFrequency false)
      else .ok (Float.ofInt rate / value) := by
  have whole : (Number.real value).toInt? = none := rfl
  have real : realOf (.real value) = .ok value := rfl
  unfold quotient
  rw [whole, realOf_whole small, real]
  rfl

theorem wholeOf_ne_zeroFrequency (value : Float) (whole : Bool) :
    wholeOf value ≠ .error (.zeroFrequency whole) := by
  unfold wholeOf
  split <;> nofun

theorem period_eq_zeroFrequency_iff {mixer : Mixer} {rate : Nat} {frequency : Number}
    (rate_eq : mixer.rate = .whole rate) (small : rate < 2 ^ 53) :
    (∃ whole, period mixer frequency = .error (.zeroFrequency whole)) ↔
      frequency.isTrue = false := by
  unfold period
  rw [rate_eq]
  cases integral : frequency.toInt? with
  | some value =>
      have isTrue_eq : frequency.isTrue = (value != 0) := by
        unfold Number.isTrue
        rw [integral]
      rw [quotient_of_int rate integral, isTrue_eq]
      by_cases zero : value = 0
      · rw [if_pos zero, zero]
        exact iff_of_true ⟨true, rfl⟩ rfl
      · rw [if_neg zero]
        refine iff_of_false ?_ (by simpa using zero)
        rintro ⟨whole, failed⟩
        split at failed
        · exact wholeOf_ne_zeroFrequency _ whole failed
        · cases failed
  | none =>
      cases frequency with
      | flag value | whole value => cases integral
      | real value =>
          have isTrue_eq : (Number.real value).isTrue = !(value == 0.0) := rfl
          rw [quotient_of_real small, isTrue_eq]
          cases value == 0.0 with
          | true => exact iff_of_true ⟨false, rfl⟩ rfl
          | false =>
              refine iff_of_false ?_ nofun
              rintro ⟨whole, failed⟩
              exact wholeOf_ne_zeroFrequency _ whole failed

/-! ## Periods that are not too long -/

theorem beq_zero_of_beyond {value : Float} (beyond : Beyond bound value.toModel.unpack) :
    (value == 0.0) = false := by
  change UnpackedFloat.beq value.toModel.unpack (.zero .positive) = false
  generalize value.toModel.unpack = unpacked at beyond
  cases beyond with
  | finite sign => cases sign <;> rfl

section Length
variable {most : Nat} (notTooMany : most ≤ 2 ^ 46)
include notTooMany

theorem widened_rate_le {rate : Nat} {size : ℚ} (positive : 0 < rate) (large : 0 < size)
    (few : (rate : ℚ) ≤ most * size) :
    widened (widened (widened rate) / size) ≤ most + 1 / 4 := by
  have atLeastOne : (1 : ℚ) ≤ rate := by exact_mod_cast positive
  have atMost : (most : ℚ) ≤ 2 ^ 46 := by exact_mod_cast notTooMany
  -- The rate is rounded, and so is the quotient. For so few samples both errors together stay below
  -- a quarter of one, so the whole number nearest to the result is none too large.
  have grown : widened (widened rate) ≤ rate * (1 + 1 / 2 ^ 49) := by
    unfold widened
    linarith
  have quotient : widened (widened rate) / size ≤ most * (1 + 1 / 2 ^ 49) := by
    rw [div_le_iff₀ large]
    linarith
  generalize widened (widened rate) / size = quotient at *
  unfold widened
  linarith

theorem quotient_within_of_int {rate : Nat} {frequency : Number} {whole : Int}
    (atLeastOne : 1 ≤ most) (same : frequency.toInt? = some whole) (nonzero : whole ≠ 0)
    (few : (rate : ℚ) ≤ most * whole.natAbs) :
    ∃ result, quotient (.whole rate) frequency = .ok result ∧
      Within (most + 1 / 4) result.toModel.unpack := by
  have large : (0 : ℚ) < whole.natAbs := by exact_mod_cast Int.natAbs_pos.mpr nonzero
  have atLeastOne : (1 : ℚ) ≤ most := by exact_mod_cast atLeastOne
  have atMost : (most : ℚ) ≤ 2 ^ 46 := by exact_mod_cast notTooMany
  have small : ((rate : Int).natAbs : ℚ) / whole.natAbs ≤ most := by
    rw [div_le_iff₀ large]
    exact few
  obtain ⟨result, found, within⟩ := within_quotient? nonzero atLeastOne small (by linarith)
  refine ⟨result, ?_, within.mono ?_⟩
  · rw [quotient_of_int rate same, if_neg nonzero, found]
  · unfold widened
    linarith

theorem quotient_within_of_real {rate : Nat} {value : Float} {size : ℚ} (positive : 0 < rate)
    (small : rate < 2 ^ 53) (atLeastOne : 1 ≤ most) (beyond : Beyond size value.toModel.unpack)
    (large : 0 < size) (few : (rate : ℚ) ≤ most * size) :
    ∃ result, quotient (.whole rate) (.real value) = .ok result ∧
      Within (most + 1 / 4) result.toModel.unpack := by
  have atLeastOne : (1 : ℚ) ≤ most := by exact_mod_cast atLeastOne
  have atMost : (most : ℚ) ≤ 2 ^ 46 := by exact_mod_cast notTooMany
  have computed : quotient (.whole rate) (.real value) = .ok (Float.ofInt rate / value) := by
    rw [quotient_of_real small, beq_zero_of_beyond beyond]
    rfl
  have divided := (within_div (within_ofInt positive small) beyond large).mono
    (widened_rate_le notTooMany positive large few)
  exact ⟨_, computed, within_unpack_pack divided (by linarith) (by linarith)⟩

theorem period_le {mixer : Mixer} {rate : Nat} {frequency : Number} {size : ℚ}
    (rate_eq : mixer.rate = .whole rate) (positive : 0 < rate) (small : rate < 2 ^ 53)
    (sized : frequency.size? = some size) (few : (rate : ℚ) ≤ most * size) :
    ∃ count : Int, period mixer frequency = .ok count ∧ count ≤ most := by
  have some : (0 : ℚ) < rate := by exact_mod_cast positive
  have atLeastOne : 1 ≤ most := by
    by_contra none
    have none : most = 0 := by omega
    rw [none, Nat.cast_zero, zero_mul] at few
    linarith
  have large : 0 < size := by
    by_contra none
    have nonpositive : (most : ℚ) * size ≤ 0 :=
      mul_nonpos_of_nonneg_of_nonpos (Nat.cast_nonneg most) (not_lt.mp none)
    linarith
  have divided : ∃ result, quotient (.whole rate) frequency = .ok result ∧
      Within (most + 1 / 4) result.toModel.unpack := by
    cases frequency with
    | real value =>
        unfold Number.size? at sized
        dsimp only at sized
        split at sized
        · rename_i found
          have beyond := beyond_of_ofFloat found large (Option.some.inj sized).ge
          exact quotient_within_of_real notTooMany positive small atLeastOne beyond large few
        all_goals cases sized
    | flag value | whole value =>
        have size_eq := Option.some.inj (sized.symm.trans (Number.size?_of_toInt? rfl))
        rw [size_eq] at few large
        refine quotient_within_of_int notTooMany atLeastOne rfl ?_ few
        intro zero
        simp [zero] at large
  obtain ⟨result, computed, within⟩ := divided
  obtain ⟨count, found, bounded⟩ := wholeOf_of_within within (by positivity)
  refine ⟨count, ?_, ?_⟩
  · rw [period, rate_eq, computed]
    exact found
  · have below : (count.natAbs : ℚ) < (most + 1 : Nat) := by
      push_cast
      linarith
    have below : count.natAbs < most + 1 := by exact_mod_cast below
    omega

end Length

/-! ## Heights -/

theorem product_of_int {volume : Number} {part : Int} (same : volume.toInt? = some part)
    (nonneg : volume.isAtLeast 0) (atMost : volume.isAtMost 1) :
    ∃ height : Int, (Number.whole 32767).mul? volume = some (.whole height) ∧
      height.natAbs ≤ 32767 := by
  unfold Number.isAtLeast at nonneg
  unfold Number.isAtMost at atMost
  rw [same] at nonneg atMost
  have bounds : 0 ≤ part ∧ part ≤ 1 := ⟨of_decide_eq_true nonneg, of_decide_eq_true atMost⟩
  refine ⟨32767 * part, ?_, by omega⟩
  have left : (Number.whole 32767).toInt? = some 32767 := rfl
  unfold Number.mul? Number.combine?
  rw [left, same]

theorem product_of_real {volume : Float} (nonneg : Float.ofInt 0 ≤ volume)
    (atMost : volume ≤ Float.ofInt 1) :
    ∃ (product : Float) (height : Int),
      (Number.whole 32767).mul? (.real volume) = some (.real product) ∧
      (Number.real product).truncate? = some height ∧ height.natAbs ≤ 32767 := by
  have largest : Within (widened (widened (32767 : Nat))) (Float.ofInt 32767).toModel.unpack :=
    within_ofInt (by decide) (by decide)
  have product := within_mul largest (within_one nonneg atMost)
  have packed := within_unpack_pack product (by norm_num [widened]) (by norm_num [widened])
  obtain ⟨height, found, bounded⟩ := truncate?_of_within packed (by norm_num [widened])
  have below : (height.natAbs : ℚ) < 32768 := by
    refine lt_of_le_of_lt bounded ?_
    norm_num [widened]
  refine ⟨Float.ofInt 32767 * volume, height, ?_, found, ?_⟩
  · rfl
  · have below : height.natAbs < 32768 := by exact_mod_cast below
    omega

theorem amplitude_of_volume {mixer : Mixer} {volume : Number} (size_eq : mixer.size = -16)
    (nonneg : volume.isAtLeast 0) (atMost : volume.isAtMost 1) :
    ∃ height, amplitude mixer volume = .ok height ∧ height.natAbs ≤ 32767 := by
  have product : ∃ product height, (Number.whole 32767).mul? volume = some product ∧
      product.truncate? = some height ∧ height.natAbs ≤ 32767 := by
    cases volume with
    | real volume =>
        obtain ⟨product, rest⟩ :=
          product_of_real (of_decide_eq_true nonneg) (of_decide_eq_true atMost)
        exact ⟨_, rest⟩
    | flag volume | whole volume =>
        obtain ⟨height, same, bounded⟩ := product_of_int rfl nonneg atMost
        exact ⟨_, height, same, rfl, bounded⟩
  obtain ⟨product, height, computed, found, bounded⟩ := product
  refine ⟨height, ?_, bounded⟩
  have largest : Number.whole (Nat.pow 2 ((-16 : Int).natAbs - 1) - 1) = .whole 32767 := rfl
  unfold amplitude
  rw [size_eq, if_neg (by decide), largest]
  dsimp only
  rw [computed]
  dsimp only
  rw [found]
  rfl

/-! ## Samples -/

theorem wave_toInt {height : Int} (bounded : height.natAbs ≤ 32767) (count : Int) :
    (wave count height).map Int16.toInt =
      (List.range count.toNat).map fun (index : Nat) =>
        if 2 * (index : Int) < count then height else -height := by
  unfold wave
  rw [List.map_map]
  refine List.map_congr_left fun index _ => ?_
  refine Int16.toInt_ofInt_of_le ?_ ?_
  · split <;> omega
  · split <;> omega

/-- There is memory for a period: eight bytes for each sample, and then, if there are several
channels, two for each sample of each channel. -/
structure Fits (room : Room) (mixer : Mixer) (count : Int) : Prop where
  period : 8 * count ≤ room.bytes
  channels : 1 < mixer.channels →
    Input.isInt64 mixer.channels ∧ 2 * count * mixer.channels ≤ room.bytes

def HasPeriod (room : Room) (mixer : Mixer) (frequency : Number) : Prop :=
  ∃ count, period mixer frequency = .ok count ∧ Fits room mixer count

section Samples
variable {room : Room} {mixer : Mixer} {frequency volume : Number} {count : Int}

theorem Fits.mono {most : Int} (fits : Fits room mixer most) (shorter : count ≤ most) :
    Fits room mixer count where
  period := le_trans (by omega) fits.period
  channels several := by
    obtain ⟨few, memory⟩ := fits.channels several
    refine ⟨few, le_trans ?_ memory⟩
    exact Int.mul_le_mul_of_nonneg_right (by omega) (by omega)

theorem checkChannels_eq_ok_iff :
    checkChannels room mixer.channels count = .ok () ↔
      (1 < mixer.channels →
        Input.isInt64 mixer.channels ∧ 2 * count * mixer.channels ≤ room.bytes) := by
  unfold checkChannels
  split
  · rename_i one
    exact iff_of_true rfl fun several => absurd several (by omega)
  · rename_i several
    have several : 1 < mixer.channels := by omega
    split
    · rename_i large
      refine iff_of_false nofun fun fits => ?_
      simp [(fits several).1] at large
    · rename_i few
      have few : Input.isInt64 mixer.channels := by simpa using few
      split
      · rename_i refused
        refine iff_of_false nofun fun fits => ?_
        rw [Room.check_eq_ok_iff.mpr (fits several).2] at refused
        cases refused
      · rename_i held
        exact iff_of_true rfl fun _ => ⟨few, Room.check_eq_ok_iff.mp held⟩

/-- Samples are made exactly if there is a period, and memory for it. -/
theorem samples_eq_ok_iff {height : Int} (loud : amplitude mixer volume = .ok height)
    (bounded : height.natAbs ≤ 32767) {samples : List Int16} :
    Tone.samples room mixer frequency volume = .ok samples ↔
      ∃ count, period mixer frequency = .ok count ∧ Fits room mixer count ∧
        wave count height = samples := by
  unfold Tone.samples
  cases period mixer frequency with
  | error error => exact iff_of_false nofun (by rintro ⟨count, ⟨⟩, -⟩)
  | ok count =>
      have quiet : ¬ (0 < count ∧ loudest < height) := by
        unfold loudest
        omega
      rw [loud]
      dsimp only [bind, Except.bind]
      constructor
      · intro made
        split at made
        · cases made
        · rename_i held
          rw [if_neg quiet] at made
          split at made
          · cases made
          · rename_i shared
            exact ⟨count, rfl, ⟨Room.check_eq_ok_iff.mp held, checkChannels_eq_ok_iff.mp shared⟩,
              Except.ok.inj made⟩
      · rintro ⟨_, ⟨⟩, fits, rfl⟩
        rw [Room.check_eq_ok_iff.mpr fits.period]
        dsimp only
        rw [if_neg quiet, checkChannels_eq_ok_iff.mpr fits.channels]
        rfl

end Samples

end Tone
end Chip8
