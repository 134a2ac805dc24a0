import Chip8.Program
import Chip8.Text.Digits

namespace Chip8

def faultText (what address : String) : String := what ++ " at 0x" ++ address

def StackFault.text : StackFault → String
  | overflow => "Stack overflow (depth 16)"
  | underflow => "Stack underflow"

def StackFault.message (cause : StackFault) (address : UInt16) : String :=
  faultText cause.text (Text.hex 3 address.toNat)

def Halt.message : Halt → String
  | stack cause address => cause.message address
  | unknown code => toString code.toNat

def Halt.mistake : Halt → Mistake
  | stack cause address => .stack cause address
  | unknown _ => .noSuchEntry

instance : Explained Halt := ⟨Halt.mistake, fun halt => some halt.message⟩

namespace Report

inductive Kind where
  | general
  | programTooLarge
  | machineFault
  | stackFault (cause : StackFault)
deriving DecidableEq

inductive BuildError where
  | wrongCount
  | notHexadecimal (kind : String)
  | notFormattable (kind : String)
deriving DecidableEq

def BuildError.message? : BuildError → Option String
  | wrongCount => none
  | notHexadecimal kind => some ("Unknown format code 'X' for object of type '" ++ kind ++ "'")
  | notFormattable kind => some ("unsupported format string passed to " ++ kind ++ ".__format__")

def BuildError.mistake : BuildError → Mistake
  | wrongCount | notFormattable _ => .wrongKind
  | notHexadecimal _ => .meaningless

instance : Explained BuildError := ⟨BuildError.mistake, BuildError.message?⟩

def addressText (address : Value) : Except BuildError String :=
  match address with
  | .number number =>
      match number.toInt? with
      | some whole => .ok (Text.hex 3 whole)
      | none => .error (.notHexadecimal address.kindName)
  | .text _ | .brokenText _ => .error (.notHexadecimal address.kindName)
  | _ => .error (.notFormattable address.kindName)

def tupleText (values : List Value) : String :=
  "(" ++ ", ".intercalate (values.map Value.inspect) ++ ")"

def text (kind : Kind) (values : List Value) : Except BuildError String :=
  match kind, values with
  | .general, [] => .ok ""
  | .general, [value] => .ok value.display
  | .general, values => .ok (tupleText values)
  | .programTooLarge, [size, capacity] => .ok (tooLargeText size.display capacity.display)
  | .machineFault, [what, address] => return faultText what.display (← addressText address)
  | .stackFault cause, [address] => return faultText cause.text (← addressText address)
  | _, _ => .error .wrongCount

end Report
end Chip8
