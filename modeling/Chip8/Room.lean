import Chip8.Mistake

namespace Chip8

structure Room where
  bytes : Nat
  countable : bytes < 9223372036854775808

inductive RoomError where
  | uncountable
  | outOfMemory
deriving DecidableEq

def RoomError.mistake : RoomError → Mistake
  | uncountable => .meaningless
  | outOfMemory => .outOfMemory

def Room.check (room : Room) (bytes : Int) : Except RoomError Unit :=
  if 9223372036854775808 ≤ bytes then .error .uncountable
  else if room.bytes < bytes then .error .outOfMemory
  else .ok ()

theorem Room.check_eq_ok_iff {room : Room} {bytes : Int} :
    room.check bytes = .ok () ↔ bytes ≤ room.bytes := by
  have countable := room.countable
  unfold check
  split
  case isTrue beyond => exact iff_of_false nofun (by omega)
  case isFalse counted =>
    split
    case isTrue short => exact iff_of_false nofun (by omega)
    case isFalse held => exact iff_of_true rfl (by omega)

def Room.HoldsImage (room : Room) (scale : Int) : Prop := 6144 * scale * scale ≤ room.bytes

instance (room : Room) (scale : Int) : Decidable (room.HoldsImage scale) :=
  inferInstanceAs (Decidable (_ ≤ _))

end Chip8
