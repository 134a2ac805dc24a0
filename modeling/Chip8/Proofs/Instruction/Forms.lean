import Mathlib.Algebra.Group.Nat.Defs
import Chip8.Proofs.Instruction.Decoding

/-!
# Which words are which instruction

A listing writes an instruction by the digits of its word: a digit stands for itself, and `X`, `Y`
and `N` stand for any digit. `Form.listing` holds every form, and the table of patterns is that
listing (`patterns_eq_listing`). So a word is decoded to an instruction whose form it has
(`hasForm_of_decode`), and a word of no form to the instruction that does nothing
(`decode_of_unlisted`).
-/

namespace Chip8

def Word.kind (word : Word) : Nibble := Nibble.low (word.toNat / 4096)

/-- How a listing writes the words of an instruction: with all digits, as `00E0`, with the first, as
`1NNN`, with the first and the last, as `8XY4`, or with the first and the last two, as `FX33`. -/
inductive Form where
  | only (word : Word)
  | first (word : Word)
  | firstLast (word : Word)
  | firstByte (word : Word)
deriving DecidableEq

def Word.HasForm (word : Word) : Form → Prop
  | .only sample => word = sample
  | .first sample => word.kind = sample.kind
  | .firstLast sample => word.kind = sample.kind ∧ word.n = sample.n
  | .firstByte sample => word.kind = sample.kind ∧ word.nn = sample.nn

instance (word : Word) : (form : Form) → Decidable (word.HasForm form)
  | .only _ => inferInstanceAs (Decidable (_ = _))
  | .first _ => inferInstanceAs (Decidable (_ = _))
  | .firstLast _ => inferInstanceAs (Decidable (_ ∧ _))
  | .firstByte _ => inferInstanceAs (Decidable (_ ∧ _))

namespace Form

def listing : List Form := [
  .only 0x00E0, .only 0x00EE, .first 0x1000, .first 0x2000, .first 0x3000, .first 0x4000,
  .firstLast 0x5000, .first 0x6000, .first 0x7000,
  .firstLast 0x8000, .firstLast 0x8001, .firstLast 0x8002, .firstLast 0x8003, .firstLast 0x8004,
  .firstLast 0x8005, .firstLast 0x8006, .firstLast 0x8007, .firstLast 0x800E,
  .firstLast 0x9000, .first 0xA000, .first 0xB000, .first 0xC000, .first 0xD000,
  .firstByte 0xE09E, .firstByte 0xE0A1, .firstByte 0xF007, .firstByte 0xF00A, .firstByte 0xF015,
  .firstByte 0xF018, .firstByte 0xF01E, .firstByte 0xF029, .firstByte 0xF033, .firstByte 0xF055,
  .firstByte 0xF065]

/-! ## Forms as masks -/

def mask : Form → UInt16
  | .only _ => 0xFFFF
  | .first _ => 0xF000
  | .firstLast _ => 0xF00F
  | .firstByte _ => 0xF0FF

def bits : Form → UInt16
  | .only word | .first word | .firstLast word | .firstByte word => word

private theorem and_eq_and_iff (word sample : Word) {mask : UInt16} {size : Nat} (small : size ≤ 12)
    (cuts : mask.toNat = 0xF000 + (2 ^ size - 1)) :
    word &&& mask = sample &&& mask ↔
      word.kind = sample.kind ∧ word.toNat % 2 ^ size = sample.toNat % 2 ^ size := by
  have lowBits : 2 ^ size ≤ 2 ^ 12 := Nat.pow_le_pow_right (by decide) small
  have positive : 0 < 2 ^ size := Nat.two_pow_pos size
  -- The mask leaves the first digit and the last `size` bits, which are looked at one by one.
  have upper (word : Word) : (word.toNat &&& mask.toNat) / 2 ^ 12 = word.toNat / 4096 := by
    have digit : mask.toNat / 2 ^ 12 = 2 ^ 4 - 1 := by omega
    have bound := word.toNat_lt
    rw [Nat.and_div_two_pow, digit, Nat.and_two_pow_sub_one_eq_mod]
    omega
  have lower (word : Word) : (word.toNat &&& mask.toNat) % 2 ^ 12 = word.toNat % 2 ^ size := by
    have rest : mask.toNat % 2 ^ 12 = 2 ^ size - 1 := by omega
    rw [Nat.and_mod_two_pow, rest, Nat.and_two_pow_sub_one_eq_mod,
      Nat.mod_mod_of_dvd _ (Nat.pow_dvd_pow 2 small)]
  have cut (word : Word) : (word &&& mask).toNat =
      word.toNat / 4096 * 2 ^ 12 + word.toNat % 2 ^ size := by
    rw [UInt16.toNat_and, ← upper word, ← lower word, Nat.div_add_mod']
  have bound := word.toNat_lt
  have sampleBound := sample.toNat_lt
  have wordLow := Nat.mod_lt word.toNat positive
  have sampleLow := Nat.mod_lt sample.toNat positive
  rw [← UInt16.toNat_inj, cut, cut]
  simp only [Word.kind, Nibble.low, Fin.ext_iff]
  omega

theorem and_mask_iff (form : Form) (word : Word) :
    word &&& form.mask = form.bits &&& form.mask ↔ word.HasForm form := by
  cases form with
  | only sample =>
      have all (word : Word) : word &&& 0xFFFF = word := UInt16.and_neg_one
      rw [mask, all, all, bits, Word.HasForm]
  | first sample =>
      rw [mask, and_eq_and_iff word _ (by decide : 0 ≤ 12) rfl]
      simp [Word.HasForm, bits, Nat.mod_one]
  | firstLast sample => exact and_eq_and_iff word sample (by decide : 4 ≤ 12) rfl
  | firstByte sample =>
      rw [mask, and_eq_and_iff word _ (by decide : 8 ≤ 12) rfl]
      simp only [Word.HasForm, bits, Word.nn, ← UInt8.toNat_inj, UInt16.toNat_toUInt8]

end Form

/-! ## Decoding words of a form -/

def Arithmetic.form : Arithmetic → Form
  | copy => .firstLast 0x8000
  | or => .firstLast 0x8001
  | and => .firstLast 0x8002
  | xor => .firstLast 0x8003
  | add => .firstLast 0x8004
  | subtract => .firstLast 0x8005
  | shiftRight => .firstLast 0x8006
  | subtractFrom => .firstLast 0x8007
  | shiftLeft => .firstLast 0x800E

def Condition.form : Condition → Form
  | equals .. => .first 0x3000
  | differs .. => .first 0x4000
  | same .. => .firstLast 0x5000
  | distinct .. => .firstLast 0x9000
  | held _ => .firstByte 0xE09E
  | notHeld _ => .firstByte 0xE0A1

def Instruction.form? : Instruction → Option Form
  | noop => none
  | clearScreen => some (.only 0x00E0)
  | leave => some (.only 0x00EE)
  | jump _ => some (.first 0x1000)
  | call _ => some (.first 0x2000)
  | skip condition => some condition.form
  | set .. => some (.first 0x6000)
  | addValue .. => some (.first 0x7000)
  | arithmetic operation .. => some operation.form
  | setIndex _ => some (.first 0xA000)
  | jumpOffset _ => some (.first 0xB000)
  | random .. => some (.first 0xC000)
  | draw .. => some (.first 0xD000)
  | getDelay _ => some (.firstByte 0xF007)
  | waitKey _ => some (.firstByte 0xF00A)
  | setDelay _ => some (.firstByte 0xF015)
  | setSound _ => some (.firstByte 0xF018)
  | addIndex _ => some (.firstByte 0xF01E)
  | glyph _ => some (.firstByte 0xF029)
  | digits _ => some (.firstByte 0xF033)
  | store _ => some (.firstByte 0xF055)
  | load _ => some (.firstByte 0xF065)

theorem patterns_eq_listing (word : Word) :
    patterns.map (fun pattern => ((pattern.build word).form?, pattern.mask, pattern.bits)) =
      Form.listing.map fun form => (some form, form.mask, form.bits &&& form.mask) :=
  rfl

theorem form_of_pattern {pattern : Pattern} (member : pattern ∈ patterns) (word : Word) :
    ∃ form ∈ Form.listing, (pattern.build word).form? = some form ∧
      (pattern.fits word ↔ word.HasForm form) := by
  have row := List.mem_map_of_mem
    (f := fun pattern : Pattern => ((pattern.build word).form?, pattern.mask, pattern.bits)) member
  rw [patterns_eq_listing word] at row
  obtain ⟨form, listed, same⟩ := List.mem_map.mp row
  obtain ⟨built, mask, bits⟩ := by simpa using same
  refine ⟨form, listed, built.symm, ?_⟩
  rw [Pattern.fits_iff, ← mask, ← bits, Form.and_mask_iff]

theorem decode_of_hasForm {pattern : Pattern} {word : Word} {form : Form}
    (member : pattern ∈ patterns) (built : (pattern.build word).form? = some form)
    (hasForm : word.HasForm form) : decode word = pattern.build word := by
  obtain ⟨found, _, same, fits_iff⟩ := form_of_pattern member word
  rw [built] at same
  cases same
  exact decode_of_fits member (fits_iff.mpr hasForm)

theorem hasForm_of_decode {word : Word} {form : Form} (decoded : (decode word).form? = some form) :
    word.HasForm form := by
  rcases decode_cases word with ⟨pattern, member, fits, built⟩ | ⟨_, nothing⟩
  · obtain ⟨found, _, same, fits_iff⟩ := form_of_pattern member word
    rw [built, same] at decoded
    cases decoded
    exact fits_iff.mp fits
  · rw [nothing] at decoded
    cases decoded

theorem decode_of_unlisted {word : Word} (unlisted : ∀ form ∈ Form.listing, ¬ word.HasForm form) :
    decode word = .noop := by
  apply decode_of_fits_none
  intro pattern member fits
  obtain ⟨form, listed, _, fits_iff⟩ := form_of_pattern member word
  exact unlisted form listed (fits_iff.mp fits)

/-! ## Single instructions -/

theorem Word.IsCall.not_isReturn {word : Word} (isCall : word.IsCall) : ¬ word.IsReturn := by
  rintro rfl
  exact absurd isCall (by decide)

theorem Word.isCall_iff_hasForm (word : Word) : word.IsCall ↔ word.HasForm (.first 0x2000) :=
  Form.and_mask_iff (.first 0x2000) word

theorem decode_of_isCall {word : Word} (isCall : word.IsCall) : decode word = .call word.nnn := by
  have member : ⟨0xF000, 0x2000, fun word => .call word.nnn⟩ ∈ patterns := by simp [patterns]
  exact decode_of_hasForm member rfl (word.isCall_iff_hasForm.mp isCall)

theorem decode_of_isReturn {word : Word} (isReturn : word.IsReturn) : decode word = .leave := by
  rw [isReturn]
  rfl

theorem isCall_of_decode {word : Word} {target : UInt16} (decoded : decode word = .call target) :
    word.IsCall :=
  word.isCall_iff_hasForm.mpr (hasForm_of_decode (by rw [decoded]; rfl))

theorem isReturn_of_decode {word : Word} (decoded : decode word = .leave) : word.IsReturn := by
  have form : (decode word).form? = some (.only 0x00EE) := by rw [decoded]; rfl
  exact hasForm_of_decode form

theorem decode_random {word : Word} (hasForm : word.HasForm (.first 0xC000)) :
    decode word = .random word.x word.nn := by
  have member : ⟨0xF000, 0xC000, fun word => .random word.x word.nn⟩ ∈ patterns := by
    simp [patterns]
  exact decode_of_hasForm member rfl hasForm

theorem decode_draw {word : Word} (hasForm : word.HasForm (.first 0xD000)) :
    decode word = .draw word.x word.y word.n := by
  have member : ⟨0xF000, 0xD000, fun word => .draw word.x word.y word.n⟩ ∈ patterns := by
    simp [patterns]
  exact decode_of_hasForm member rfl hasForm

theorem decode_addValue {word : Word} (hasForm : word.HasForm (.first 0x7000)) :
    decode word = .addValue word.x word.nn := by
  have member : ⟨0xF000, 0x7000, fun word => .addValue word.x word.nn⟩ ∈ patterns := by
    simp [patterns]
  exact decode_of_hasForm member rfl hasForm

theorem decode_arithmetic {word : Word} {operation : Arithmetic}
    (hasForm : word.HasForm operation.form) :
    decode word = .arithmetic operation word.x word.y := by
  have member : ⟨0xF00F, operation.form.bits, fun word => .arithmetic operation word.x word.y⟩ ∈
      patterns := by
    cases operation <;> simp [patterns, Arithmetic.form, Form.bits]
  exact decode_of_hasForm member rfl hasForm

theorem decode_glyph {word : Word} (hasForm : word.HasForm (.firstByte 0xF029)) :
    decode word = .glyph word.x := by
  have member : ⟨0xF0FF, 0xF029, fun word => .glyph word.x⟩ ∈ patterns := by simp [patterns]
  exact decode_of_hasForm member rfl hasForm

theorem decode_getDelay {word : Word} (hasForm : word.HasForm (.firstByte 0xF007)) :
    decode word = .getDelay word.x := by
  have member : ⟨0xF0FF, 0xF007, fun word => .getDelay word.x⟩ ∈ patterns := by simp [patterns]
  exact decode_of_hasForm member rfl hasForm

theorem decode_waitKey {word : Word} (hasForm : word.HasForm (.firstByte 0xF00A)) :
    decode word = .waitKey word.x := by
  have member : ⟨0xF0FF, 0xF00A, fun word => .waitKey word.x⟩ ∈ patterns := by simp [patterns]
  exact decode_of_hasForm member rfl hasForm

theorem decode_setDelay {word : Word} (hasForm : word.HasForm (.firstByte 0xF015)) :
    decode word = .setDelay word.x := by
  have member : ⟨0xF0FF, 0xF015, fun word => .setDelay word.x⟩ ∈ patterns := by simp [patterns]
  exact decode_of_hasForm member rfl hasForm

theorem decode_setSound {word : Word} (hasForm : word.HasForm (.firstByte 0xF018)) :
    decode word = .setSound word.x := by
  have member : ⟨0xF0FF, 0xF018, fun word => .setSound word.x⟩ ∈ patterns := by simp [patterns]
  exact decode_of_hasForm member rfl hasForm

theorem decode_digits {word : Word} (hasForm : word.HasForm (.firstByte 0xF033)) :
    decode word = .digits word.x := by
  have member : ⟨0xF0FF, 0xF033, fun word => .digits word.x⟩ ∈ patterns := by simp [patterns]
  exact decode_of_hasForm member rfl hasForm

theorem decode_store {word : Word} (hasForm : word.HasForm (.firstByte 0xF055)) :
    decode word = .store word.x := by
  have member : ⟨0xF0FF, 0xF055, fun word => .store word.x⟩ ∈ patterns := by simp [patterns]
  exact decode_of_hasForm member rfl hasForm

theorem decode_load {word : Word} (hasForm : word.HasForm (.firstByte 0xF065)) :
    decode word = .load word.x := by
  have member : ⟨0xF0FF, 0xF065, fun word => .load word.x⟩ ∈ patterns := by simp [patterns]
  exact decode_of_hasForm member rfl hasForm

end Chip8
