import Chip8.Files
import Chip8.Input
import Chip8.Machine.Run

namespace Chip8

structure Rom where
  name : String
  contents : Except FileError (List UInt8)

inductive LoadError where
  | tooLarge (size capacity : Nat)
  | file (error : FileError) (shown : String)
  | data (error : InputError)
deriving DecidableEq

def tooLargeText (size capacity : String) : String :=
  "Program is " ++ size ++ " bytes but only " ++ capacity ++ " bytes fit in memory"

def LoadError.message? : LoadError → Option String
  | tooLarge size capacity => some (tooLargeText (toString size) (toString capacity))
  | file error shown => error.message? shown
  | data error => error.message?

def LoadError.mistake : LoadError → Mistake
  | tooLarge size capacity => .programTooLarge size capacity
  | file error _ => error.mistake
  | data error => error.mistake

instance : Explained LoadError := ⟨LoadError.mistake, LoadError.message?⟩

namespace Program

def capacity : Nat := Memory.size - Machine.programStart

def ofData (data : Value) : Except LoadError (List UInt8) :=
  match Input.items data with
  | .error error => .error (.data error)
  | .ok items =>
      if capacity < items.length then .error (.tooLarge items.length capacity)
      else (items.mapM Input.byte).mapError .data

def wordBytes (word : Word) : List UInt8 := [(word >>> 8).toUInt8, word.toUInt8]

def ofWords (words : List Word) : List UInt8 := words.flatMap wordBytes

inductive AssemblyError where
  | tooBig
  | negative
  | notWhole (kind : String)
deriving DecidableEq

def AssemblyError.message : AssemblyError → String
  | tooBig => "int too big to convert"
  | negative => "can't convert negative int to unsigned"
  | notWhole kind => "'" ++ kind ++ "' object has no attribute 'to_bytes'"

def AssemblyError.mistake : AssemblyError → Mistake
  | tooBig | negative => .outOfRange
  | notWhole _ => .noSuchMember

instance : Explained AssemblyError := ⟨AssemblyError.mistake, fun error => some error.message⟩

def wordOf (value : Value) : Except AssemblyError Word :=
  match value with
  | .number number =>
      match number.toInt? with
      | none => .error (.notWhole value.kindName)
      | some whole =>
          if whole < 0 then .error .negative
          else if 65536 ≤ whole then .error .tooBig
          else .ok (UInt16.ofNat whole.toNat)
  | _ => .error (.notWhole value.kindName)

def assemble (values : List Value) : Except AssemblyError (List UInt8) :=
  return ofWords (← values.mapM wordOf)

end Program

def Rom.read (rom : Rom) : Except LoadError (List UInt8) :=
  match rom.contents with
  | .ok program => .ok program
  | .error error => .error (.file error (Text.quoted rom.name))

namespace Machine

def load (machine : Machine) (program : List UInt8) : Except LoadError Machine :=
  if programStart + program.length ≤ Memory.size then
    .ok { machine with memory := machine.memory.writeAll programStart program }
  else .error (.tooLarge program.length Program.capacity)

def loadRom (machine : Machine) (rom : Rom) : Except LoadError Machine := do
  machine.load (← rom.read)

def loadBatch (machines : List Machine) (program : List UInt8) : Except LoadError (List Machine) :=
  if programStart + program.length ≤ Memory.size then
    .ok (machines.map fun machine =>
      { machine with memory := machine.memory.writeAll programStart program })
  else .error (.tooLarge program.length Program.capacity)

end Machine
end Chip8
