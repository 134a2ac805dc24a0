import Chip8.Input
import Chip8.Machine.Run

namespace Chip8

structure Rate where
  rate : Int
  parts : Nat
deriving DecidableEq

structure Progress extends Rate where
  total : Int
  description : String
deriving DecidableEq

inductive ProgressEvent where
  | opened (total : Int) (description : String)
  | advanced (steps : Int)
  | closed
deriving DecidableEq

namespace Progress

def effectiveRate (total : Int) : Option Number → Rate
  | none => ⟨max 1 (min (Int.fdiv total 20) 50), 1⟩
  | some (.real value) =>
      match Decimal.Binary.ofFloat value with
      | .finite false magnitude =>
          if magnitude.numerator ≤ magnitude.denominator then ⟨1, 1⟩
          else if total * magnitude.denominator ≤ magnitude.numerator then ⟨max 1 total, 1⟩
          else ⟨magnitude.numerator, magnitude.denominator⟩
      | .infinite false => ⟨max 1 total, 1⟩
      | _ => ⟨1, 1⟩
  | some number => ⟨max 1 (min (number.toInt?.getD 1) total), 1⟩

def describe (total : Int) (unit : String) : Option String → String
  | none | some "" => "Running (" ++ Text.grouped total ++ " " ++ unit ++ ")"
  | some description => description

def plan (total : Int) (rate : Option Number) (description : Option String) : Progress where
  toRate := effectiveRate total rate
  total
  description := describe total "steps" description

def rest (progress : Progress) (steps : Int) : Int :=
  Int.fmod (steps * progress.parts) progress.rate

def wholeSteps (progress : Progress) (amount : Int) : Int := Int.fdiv amount progress.parts

def remainder (progress : Progress) : Int := progress.rest progress.total

def update (progress : Progress) (bars : Nat) (index : Int) : Nat × List ProgressEvent :=
  let opening := index == 0
  let bars := if opening then bars + 1 else bars
  let advance (due : Bool) (amount : Int) : List ProgressEvent :=
    if due && bars != 0 then [.advanced (progress.wholeSteps amount)] else []
  (bars,
    (if opening then [.opened progress.total progress.description] else []) ++
      advance (progress.rest (index + 1) == 0) progress.rate ++
      advance (progress.remainder != 0 && index == progress.total - 1) progress.remainder)

def updateByHand (progress : Progress) (bars : Nat) (index : Int) :
    Except InputError (Nat × List ProgressEvent) :=
  if progress.parts = 1 ∧ !Input.isInt32 progress.rate then .error .outOfRange
  else .ok (progress.update bars index)

def close (progress : Progress) (bars : Nat) (index : Int) : Nat × List ProgressEvent :=
  if index == progress.total - 1 && bars != 0 then (bars - 1, [.closed]) else (bars, [])

def loop {State : Type} (progress : Progress) (body : Nat → State → State) (bars index : Nat)
    (state : State) : (count : Nat) → State × List ProgressEvent
  | 0 => (state, [])
  | count + 1 =>
      let (opened, before) := progress.update bars index
      let (kept, after) := progress.close opened index
      let (last, events) := progress.loop body kept (index + 1) (body index state) count
      (last, before ++ after ++ events)

def run {State : Type} (progress : Progress) (body : Nat → State → State) (state : State) :
    State × List ProgressEvent :=
  progress.loop body 0 0 state progress.total.toNat

end Progress

def Machine.runWithProgress (machine : Machine) (count : Int) (rate : Option Number)
    (description : Option String) : Machine × List ProgressEvent :=
  (Progress.plan count rate (some (Progress.describe count "instructions" description))).run
    (fun _ state => state.step) machine

end Chip8
