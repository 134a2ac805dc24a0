import Chip8.Instruction.Decode
import Chip8.Mistake
import Chip8.Nested
import Chip8.Text.Numerals

namespace Chip8

inductive InputError where
  | outOfRange
  | meaningless
  | wrongKind
  | ragged (sizes : List Nat)
deriving DecidableEq

namespace InputError

def mistake : InputError → Mistake
  | outOfRange => .outOfRange
  | meaningless | ragged _ => .meaningless
  | wrongKind => .wrongKind

def message? : InputError → Option String
  | ragged sizes => some (raggedText sizes)
  | _ => none

instance : Explained InputError := ⟨mistake, message?⟩

end InputError

namespace Input

def wrap (value : Int) : UInt16 := UInt16.ofNat (value % 65536).toNat

def isWord (value : Int) : Bool := 0 ≤ value && value < 65536

def isInt32 (value : Int) : Bool := -2147483648 ≤ value && value < 2147483648

def isInt64 (value : Int) : Bool := -9223372036854775808 ≤ value && value < 9223372036854775808

def required {Item : Type} (error : InputError) : Option Item → Except InputError Item
  | some item => .ok item
  | none => .error error

def integer (value : Value) : Except InputError Int :=
  match value with
  | .number number =>
      required (if number.toFloat.isNaN then .meaningless else .outOfRange) number.truncate?
  | .text text => required .meaningless (Text.integer? text)
  | .bytes bytes => required .meaningless (Text.integerOfBytes? bytes)
  | .nothing | .brokenText _ => .error .meaningless
  | .other thing => required .wrongKind thing.whole?
  | .list _ | .table _ => .error .wrongKind

def integerWithin (fits : Int → Bool) (value : Value) : Except InputError Int := do
  let whole ← integer value
  if fits whole then return whole else throw .outOfRange

def notWord (list : Value) : Except InputError InputError := do
  if list.hasGap then throw .meaningless
  let outline := list.outline
  if !outline.regular then throw .meaningless
  let _ ← list.leaves.mapM (integerWithin isWord)
  let innermost := outline.sizes.getLastD 1
  if outline.sizes.length = 1 ∨ innermost = 1 ∨ innermost = patterns.length then return .wrongKind
  else return .meaningless

def word (value : Value) : Except InputError UInt16 :=
  match value with
  | .list _ | .table _ => do throw (← notWord value)
  | single => return wrap (← integerWithin isWord single)

/-- A word to execute: any 32-bit whole number, of which the low half counts. Other numbers are
first rounded to single precision and then lose their fraction; those beyond the words stand for
the first or the last one. -/
def instructionWord (value : Value) : Except InputError UInt16 :=
  match value with
  | .number (.real real) => .ok real.toFloat32.toUInt16
  | .number number =>
      let whole := number.toInt?.getD 0
      if isInt32 whole then .ok (wrap whole) else .error .outOfRange
  | _ => .error .wrongKind

def count (value : Value) : Except InputError Int :=
  match value with
  | .list _ | .table _ => .error .meaningless
  | .other thing =>
      if thing.isName then integerWithin isInt32 value else .error .meaningless
  | single => integerWithin isInt32 single

def byte (value : Value) : Except InputError UInt8 :=
  match value with
  | .list _ => .error .meaningless
  | .number (.real _) | .other _ => do
      return UInt8.ofNat ((← integerWithin isInt64 value) % 256).toNat
  | single => do
      return UInt8.ofNat (← integerWithin (fun whole => 0 ≤ whole && whole < 256) single).toNat

def items (value : Value) : Except InputError (List Value) :=
  match value with
  | .text text => .ok (text.toList.map fun character => .text character.toString)
  | .brokenText text =>
      .ok (text.characters.map fun
        | .inl character => .text character.toString
        | .inr surrogate => .brokenText ⟨"", surrogate, []⟩)
  | .bytes bytes => .ok (bytes.map fun byte => .number (.whole byte.toNat))
  | .list items => .ok items
  | .table entries => .ok (entries.map fun entry => .text entry.1)
  | .nothing | .number _ | .other _ => .error .wrongKind

def stepCount (value : Value) : Except InputError Int :=
  match value with
  | .number number =>
      match number.toInt? with
      | some whole => if isInt32 whole && isInt32 (whole - 1) then .ok whole else .error .outOfRange
      | none => .error .wrongKind
  | _ => .error .wrongKind

def seed (value : Value) : Except InputError RandomKey :=
  match value with
  | .number number =>
      match number.toInt? with
      | some whole => if isInt64 whole then .ok (RandomKey.ofSeed whole) else .error .outOfRange
      | none => .error .wrongKind
  | _ => .error .wrongKind

def held (value : Value) : Except InputError Bool :=
  match value with
  | .number (.real real) => .ok (real.toFloat32.toFloat != 0.0)
  | .number number =>
      if isInt32 (number.toInt?.getD 0) then .ok number.isTrue else .error .outOfRange
  | .nothing => .error .meaningless
  | .list items =>
      if items.any fun item => item matches .text _ | .brokenText _ | .bytes _ | .other _ then
        .error .wrongKind
      else .error .meaningless
  | _ => .error .wrongKind

def keySelection (value : Value) : Except InputError KeySelection :=
  match value with
  | .nothing => .ok .all
  | .number (.whole index) => if isInt32 index then .ok (.one index) else .error .outOfRange
  | _ => .error .wrongKind

def keypadOf (keys : List Value) : Except InputError Keypad :=
  match Keypad.ofList? (keys.map Value.isTrue) with
  | some keypad => .ok keypad
  | none => .error .wrongKind

def keypad (value : Value) : Except InputError Keypad :=
  if value.hasGap || !value.outline.regular then .error .meaningless else keypadOf value.leaves

def frameKeypad (value : Value) : Except InputError Keypad :=
  let outline := value.outline
  if outline.regular then keypadOf value.leaves else .error (.ragged outline.sizes)

def frameKeypads (rows : List Value) : Except InputError (List Keypad) :=
  if !(Value.list rows).outline.regular then .error .meaningless
  else if rows.isEmpty then .error .wrongKind
  else rows.mapM fun row => keypadOf row.leaves

end Input
end Chip8
