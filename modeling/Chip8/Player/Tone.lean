import Chip8.Decimal.Fixed
import Chip8.Decimal.Quotient
import Chip8.Input
import Chip8.Room

namespace Chip8

/-- How sound is put out. The size is the number of bits of a sample, negative with a sign. -/
structure Mixer where
  rate : Number
  size : Int
  channels : Int

inductive ToneError where
  | zeroFrequency (whole : Bool)
  | notANumber
  | infinite
  | quotientTooLarge
  | tooLarge
  | tooLoud
  | tooLong (period : Int)
  | tooManyChannels
  | tooWide (error : RoomError)
  | noMixer
deriving DecidableEq

namespace ToneError

def byteText (bytes : Nat) : String :=
  let units := ["bytes", "KiB", "MiB", "GiB", "TiB", "PiB", "EiB"]
  let index := min (bytes.log2 / 10) 6
  let size := Nat.pow 1024 index
  let places := if bytes < 10 * size then 2 else if bytes < 100 * size then 1 else 0
  let point := if places = 0 then "." else ""
  Decimal.withPoint places (Decimal.nearest (bytes * Nat.pow 10 places) size) ++ point ++ " " ++
    units.getD index ""

def lengthMessage (length : Int) : String :=
  if 9223372036854775808 ≤ length then "Maximum allowed size exceeded"
  else if 9223372036854775808 ≤ 8 * length then
    "array is too big; `arr.size * arr.dtype.itemsize` is larger than the maximum possible size."
  else
    "Unable to allocate " ++ byteText (8 * length.toNat) ++ " for an array with shape " ++
      shapeText ", " [length.toNat] ++ " and data type int64"

def message? : ToneError → Option String
  | zeroFrequency whole => some (if whole then "division by zero" else "float division by zero")
  | notANumber => some "cannot convert float NaN to integer"
  | infinite => some "cannot convert float infinity to integer"
  | quotientTooLarge => some "integer division result too large for a float"
  | tooLarge => some "int too large to convert to float"
  | tooLoud => some "Python int too large to convert to C long"
  | tooLong period => some (lengthMessage period)
  | tooManyChannels | tooWide _ => none
  | noMixer => some "cannot unpack non-iterable NoneType object"

def mistake : ToneError → Mistake
  | zeroFrequency _ => .divisionByZero
  | notANumber => .meaningless
  | infinite | quotientTooLarge | tooLarge | tooLoud | tooManyChannels => .outOfRange
  | tooLong period => if 9223372036854775808 ≤ 8 * period then .meaningless else .outOfMemory
  | tooWide error => error.mistake
  | noMixer => .wrongKind

instance : Explained ToneError := ⟨mistake, message?⟩

end ToneError

namespace Tone

def wholeOf (value : Float) : Except ToneError Int :=
  match Decimal.Binary.ofFloat value with
  | .finite negative magnitude =>
      let size : Int := Decimal.nearest magnitude.numerator magnitude.denominator
      .ok (if negative then -size else size)
  | .infinite _ => .error .infinite
  | .notANumber => .error .notANumber

def realOf (number : Number) : Except ToneError Float :=
  match number.real? with
  | some real => .ok real
  | none => .error .tooLarge

/-- A quotient is rounded once if both numbers are whole, and otherwise computed from them as
floating-point numbers. -/
def quotient (left right : Number) : Except ToneError Float :=
  match left.toInt?, right.toInt? with
  | some numerator, some denominator =>
      if denominator = 0 then .error (.zeroFrequency true)
      else
        match Decimal.quotient? numerator denominator with
        | some quotient => .ok quotient
        | none => .error .quotientTooLarge
  | _, _ => do
      let numerator ← realOf left
      let denominator ← realOf right
      if denominator == 0.0 then throw (.zeroFrequency false) else return numerator / denominator

def period (mixer : Mixer) (frequency : Number) : Except ToneError Int := do
  wholeOf (← quotient mixer.rate frequency)

def amplitude (mixer : Mixer) (volume : Number) : Except ToneError Int :=
  if mixer.size = 0 then .ok 0
  else
    let largest : Number := .whole (Nat.pow 2 (mixer.size.natAbs - 1) - 1)
    match largest.mul? volume with
    | some height => .ok (height.truncate?.getD 0)
    | none => .error .tooLarge

def loudest : Int := 9223372036854775808

def wave (period amplitude : Int) : List Int16 :=
  (List.range period.toNat).map fun (index : Nat) =>
    Int16.ofInt (if 2 * (index : Int) < period then amplitude else -amplitude)

def checkChannels (room : Room) (channels period : Int) : Except ToneError Unit :=
  if channels ≤ 1 then .ok ()
  else if !Input.isInt64 channels then .error .tooManyChannels
  else
    match room.check (2 * period * channels) with
    | .error error => .error (.tooWide error)
    | .ok _ => .ok ()

/-- The wave is computed in numbers of eight bytes and then cut down to samples of two. -/
def samples (room : Room) (mixer : Mixer) (frequency volume : Number) :
    Except ToneError (List Int16) := do
  let period ← period mixer frequency
  let amplitude ← amplitude mixer volume
  match room.check (8 * period) with
  | .error _ => throw (.tooLong period)
  | .ok _ =>
      if 0 < period ∧ loudest < amplitude then throw .tooLoud
      else
        checkChannels room mixer.channels period
        return wave period amplitude

def shape (mixer : Mixer) (samples : List Int16) : List Nat :=
  if 1 < mixer.channels then [samples.length, mixer.channels.toNat] else [samples.length]

def row (mixer : Mixer) (sample : Int16) : List Int16 :=
  List.replicate (max 1 mixer.channels.toNat) sample

end Tone
end Chip8
