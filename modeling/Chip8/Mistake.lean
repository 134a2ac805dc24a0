import Chip8.Machine.Fault

namespace Chip8

inductive Mistake where
  | wrongKind
  | meaningless
  | outOfRange
  | divisionByZero
  | outOfMemory
  | notEncodable
  | noSuchMember
  | noSuchEntry
  | badIndex
  | noSuchFile
  | notDirectory
  | isDirectory
  | unusableFile
  | programTooLarge (size capacity : Nat)
  | stack (cause : StackFault) (address : UInt16)
deriving DecidableEq

class Explained (Error : Type) where
  mistake : Error → Mistake
  message? : Error → Option String

end Chip8
