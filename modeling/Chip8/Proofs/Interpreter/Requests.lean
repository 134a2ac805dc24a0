import Chip8.Proofs.Interpreter.Settling
import Chip8.Proofs.Machine.History

namespace Chip8

inductive Request where
  | reset
  | load (data source : Value)
  | loadFile (name : Value) (contents : Except FileError (List UInt8))
  | tick
  | run (count : Value)
  | runFrame (keys count : Value)
  | tickTimers
  | setKey (index pressed : Value)
  | setKeys (keys : Value)

def Request.action? : Request → Option Action
  | reset => some .reset
  | load data _ => (Program.ofData data).toOption.map .load
  | loadFile _ contents => contents.toOption.map .load
  | tick => some .step
  | run count => (Input.count count).toOption.map fun steps => .run steps.toNat
  | runFrame keys count => do
      let keypad ← (Input.frameKeypad keys).toOption
      let steps ← (Input.count count).toOption
      return .runFrame keypad steps.toNat
  | tickTimers => some .tickTimers
  | setKey index pressed => do
      let held ← (Input.held pressed).toOption
      let selection ← (Input.keySelection index).toOption
      return .setKey selection held
  | setKeys keys => (Input.keypad keys).toOption.map .setKeys

namespace Interpreter
variable {Time : Type} [Clock Time]

def serve (interpreter : Interpreter Time) (now : Reading Time) : Request → Reply Time
  | .reset => interpreter.reset now
  | .load data source => interpreter.loadData now data source
  | .loadFile name contents => interpreter.loadFile now name contents
  | .tick => interpreter.tick now
  | .run count => interpreter.run now count
  | .runFrame keys count => interpreter.runFrameWith now keys count
  | .tickTimers => interpreter.tickTimers
  | .setKey index pressed => interpreter.setKey index pressed
  | .setKeys keys => interpreter.setKeys keys

def serveAll (interpreter : Interpreter Time) (requests : List (Reading Time × Request)) :
    Interpreter Time :=
  requests.foldl (fun interpreter request => (interpreter.serve request.1 request.2).interpreter)
    interpreter

theorem load_machine (interpreter : Interpreter Time) (now : Reading Time) (program : List UInt8)
    (source : Value) :
    (interpreter.load now program source).interpreter.machine =
      interpreter.machine.perform (.load program) := by
  unfold load
  rw [Machine.perform]
  cases interpreter.machine.load program with
  | error error => rfl
  | ok machine =>
      dsimp only
      split
      · rfl
      · split <;> rfl

theorem load_log (interpreter : Interpreter Time) (now : Reading Time) (program : List UInt8)
    (source : Value) :
    (interpreter.load now program source).interpreter.log = interpreter.log := by
  unfold load
  split
  · rfl
  · dsimp only
    split
    · rfl
    · split <;> rfl

theorem serve_machine (interpreter : Interpreter Time) (now : Reading Time) (request : Request) :
    (interpreter.serve now request).interpreter.machine =
      request.action?.elim interpreter.machine interpreter.machine.perform := by
  cases request with
  | reset =>
      simp only [serve, reset]
      cases interpreter.log <;> rfl
  | load data source =>
      simp only [serve, loadData, Request.action?]
      cases Program.ofData data with
      | error error => rfl
      | ok program => exact interpreter.load_machine now program source
  | loadFile name contents =>
      cases contents with
      | error error => rfl
      | ok program => exact interpreter.load_machine now program name
  | tick => exact interpreter.settle_machine now _ _ 0
  | run count =>
      simp only [serve, run, Request.action?]
      cases Input.count count with
      | error error => rfl
      | ok steps => exact interpreter.settle_machine now _ count 0
  | runFrame keys count =>
      simp only [serve, runFrameWith, runFrame, Request.action?]
      cases Input.frameKeypad keys with
      | error error => rfl
      | ok keypad =>
          cases Input.count count with
          | error error => rfl
          | ok steps => exact interpreter.settle_machine now _ count 1
  | tickTimers => rfl
  | setKey index pressed =>
      simp only [serve, setKey, Request.action?]
      cases Input.held pressed with
      | error error => rfl
      | ok held => cases Input.keySelection index <;> rfl
  | setKeys keys =>
      simp only [serve, setKeys, Request.action?]
      cases Input.keypad keys <;> rfl

theorem serveAll_machine (interpreter : Interpreter Time)
    (requests : List (Reading Time × Request)) :
    (interpreter.serveAll requests).machine =
      interpreter.machine.performAll (requests.filterMap fun request => request.2.action?) := by
  induction requests generalizing interpreter with
  | nil => rfl
  | cons request rest ih =>
      have first := interpreter.serve_machine request.1 request.2
      refine (ih (interpreter.serve request.1 request.2).interpreter).trans ?_
      rw [first, List.filterMap_cons]
      cases request.2.action? <;> rfl

end Interpreter
end Chip8
