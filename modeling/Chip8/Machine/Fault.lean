/-! # Faults: why a machine has stopped -/

namespace Chip8

inductive StackFault where
  | overflow
  | underflow
deriving DecidableEq

/-- What a machine records when it stops. Codes above two are never recorded by an instruction,
but a state that is set by hand may hold one. -/
inductive Fault where
  | stack (cause : StackFault)
  | unknown (code : UInt8) (above : 2 < code)
deriving DecidableEq

namespace Fault

def code : Fault → UInt8
  | stack .overflow => 1
  | stack .underflow => 2
  | unknown code _ => code

def ofCode? (code : UInt8) : Option Fault :=
  if code = 0 then none
  else if code = 1 then some (stack .overflow)
  else if code = 2 then some (stack .underflow)
  else if above : 2 < code then some (unknown code above)
  else none

theorem ofCode?_code (fault : Fault) : ofCode? fault.code = some fault := by
  cases fault with
  | stack cause => cases cause <;> rfl
  | unknown code above =>
      have zero : code ≠ 0 := by rintro rfl; exact absurd above (by decide)
      have one : code ≠ 1 := by rintro rfl; exact absurd above (by decide)
      have two : code ≠ 2 := by rintro rfl; exact absurd above (by decide)
      simp [Fault.code, ofCode?, zero, one, two, above]

end Fault

inductive Halt where
  | stack (cause : StackFault) (address : UInt16)
  | unknown (code : UInt8)
deriving DecidableEq

end Chip8
