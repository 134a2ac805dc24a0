import Chip8.Input
import Chip8.Log.Session

/-!
# Interpreter

One machine with, perhaps, a session log. Every call gives the next interpreter, what was printed,
and what went wrong. A call whose input is refused changes and prints nothing; a call that runs
into a fault keeps the machine as the fault left it and logs the fault.
-/

namespace Chip8

structure Interpreter (Time : Type) where
  machine : Machine
  log : Option (SessionLog Time)

inductive Problem where
  | halt (halt : Halt)
  | load (error : LoadError)
  | input (error : InputError)
  | count (error : CountError)
  | unprintable
deriving DecidableEq

namespace Problem

def mistake : Problem → Mistake
  | halt cause => cause.mistake
  | load error => error.mistake
  | input error => error.mistake
  | count error => error.mistake
  | unprintable => .notEncodable

def message? : Problem → Option String
  | halt cause => some cause.message
  | load error => error.message?
  | input error => error.message?
  | count error => some error.message
  | unprintable => none

instance : Explained Problem := ⟨mistake, message?⟩

end Problem

structure Reply (Time : Type) where
  interpreter : Interpreter Time
  printed : String := ""
  problem : Option Problem := none

namespace Interpreter
variable {Time : Type} [Clock Time]

def create (random : RandomKey) (log : Option (SessionLog Time)) : Interpreter Time :=
  ⟨Machine.powerOn random, log⟩

def refuse (interpreter : Interpreter Time) (problem : Problem) : Reply Time :=
  { interpreter, problem := some problem }

def withMachine (interpreter : Interpreter Time) (machine : Machine) : Reply Time :=
  { interpreter := { interpreter with machine } }

def reset (interpreter : Interpreter Time) (now : Reading Time) : Reply Time :=
  let machine := interpreter.machine.reset
  match interpreter.log with
  | none => { interpreter := ⟨machine, none⟩ }
  | some log =>
      let (log, printed) := log.reset now
      { interpreter := ⟨machine, some log⟩, printed }

def load (interpreter : Interpreter Time) (now : Reading Time) (program : List UInt8)
    (source : Value := .text "program") : Reply Time :=
  match interpreter.machine.load program with
  | .error error => interpreter.refuse (.load error)
  | .ok machine =>
      let interpreter := { interpreter with machine }
      match interpreter.log with
      | none => { interpreter }
      | some log =>
          match log.loaded? now source (.number (.whole program.length)) with
          | some printed => { interpreter, printed }
          | none => { interpreter, problem := some .unprintable }

def loadData (interpreter : Interpreter Time) (now : Reading Time) (data : Value)
    (source : Value := .text "program") : Reply Time :=
  match Program.ofData data with
  | .error error => interpreter.refuse (.load error)
  | .ok program => interpreter.load now program source

def loadFile (interpreter : Interpreter Time) (now : Reading Time) (name : Value)
    (contents : Except FileError (List UInt8)) : Reply Time :=
  match contents with
  | .error error => interpreter.refuse (.load (.file error name.inspect))
  | .ok program => interpreter.load now program name

def loadRom (interpreter : Interpreter Time) (now : Reading Time) (rom : Rom) : Reply Time :=
  interpreter.loadFile now (.text rom.name) rom.contents

def recordWork (interpreter : Interpreter Time) (now : Reading Time) (instructions : Value)
    (frames : Int) : Option (SessionLog Time) × Except CountError String :=
  match interpreter.log with
  | none => (none, .ok "")
  | some log =>
      if interpreter.machine.isHalted then (some log, .ok "")
      else
        let (log, printed) := log.record now instructions (.number (.whole frames))
        (some log, printed)

def settle (interpreter : Interpreter Time) (now : Reading Time) (machine : Machine)
    (instructions : Value) (frames : Int) : Reply Time :=
  match interpreter.recordWork now instructions frames with
  | (log, .error error) => { interpreter := ⟨machine, log⟩, problem := some (.count error) }
  | (log, .ok printed) =>
      match machine.halt? with
      | none => { interpreter := ⟨machine, log⟩, printed }
      | some (.stack cause address) =>
          let fault := log.elim "" fun log => log.halted now (cause.message address)
          { interpreter := ⟨machine, log⟩
            printed := printed ++ fault
            problem := some (.halt (.stack cause address)) }
      | some (.unknown code) =>
          { interpreter := ⟨machine, log⟩, printed, problem := some (.halt (.unknown code)) }

def tick (interpreter : Interpreter Time) (now : Reading Time) : Reply Time :=
  interpreter.settle now interpreter.machine.step (.number (.whole 1)) 0

def tickTimes (interpreter : Interpreter Time) (now : Reading Time) : (count : Nat) → Reply Time
  | 0 => { interpreter }
  | count + 1 =>
      let first := interpreter.tick now
      if first.problem.isSome then first
      else
        let rest := first.interpreter.tickTimes now count
        { rest with printed := first.printed ++ rest.printed }

def run (interpreter : Interpreter Time) (now : Reading Time) (count : Value) : Reply Time :=
  match Input.count count with
  | .error error => interpreter.refuse (.input error)
  | .ok steps => interpreter.settle now (interpreter.machine.run steps.toNat) count 0

def runFrame (interpreter : Interpreter Time) (now : Reading Time) (keypad : Keypad)
    (count : Value) : Reply Time :=
  match Input.count count with
  | .error error => interpreter.refuse (.input error)
  | .ok steps => interpreter.settle now (interpreter.machine.runFrame keypad steps.toNat) count 1

def runFrameWith (interpreter : Interpreter Time) (now : Reading Time) (keys count : Value) :
    Reply Time :=
  match Input.frameKeypad keys with
  | .error error => interpreter.refuse (.input error)
  | .ok keypad => interpreter.runFrame now keypad count

def tickTimers (interpreter : Interpreter Time) : Reply Time :=
  interpreter.withMachine interpreter.machine.tickTimers

def setKey (interpreter : Interpreter Time) (index pressed : Value) : Reply Time :=
  match Input.held pressed, Input.keySelection index with
  | .error error, _ | .ok _, .error error => interpreter.refuse (.input error)
  | .ok held, .ok selection =>
      interpreter.withMachine (interpreter.machine.setSelected selection held)

def setKeys (interpreter : Interpreter Time) (keys : Value) : Reply Time :=
  match Input.keypad keys with
  | .error error => interpreter.refuse (.input error)
  | .ok keypad => interpreter.withMachine (interpreter.machine.setKeys keypad)

end Interpreter
end Chip8
