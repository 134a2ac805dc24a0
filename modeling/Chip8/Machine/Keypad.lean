import Chip8.Nibble

/-! # Keypad: sixteen keys, each held or released -/

namespace Chip8

abbrev Key := Nibble

structure Keypad where
  held : Vector Bool 16
deriving DecidableEq

inductive KeySelection where
  | none
  | one (index : Int)
  | all
deriving DecidableEq

namespace Keypad

def released : Keypad := ⟨Vector.replicate 16 false⟩

def isHeld (keypad : Keypad) (key : Key) : Bool := keypad.held[key]

def set (keypad : Keypad) (key : Key) (held : Bool) : Keypad := ⟨keypad.held.set key.val held⟩

/-- Keys may be counted from the end: `-1` names the last key and `-16` the first. -/
def key? (index : Int) : Option Key :=
  let counted := if index < 0 then index + 16 else index
  if inside : 0 ≤ counted ∧ counted < 16 then some ⟨counted.toNat, by omega⟩ else none

def setAt (keypad : Keypad) (index : Int) (held : Bool) : Keypad :=
  match key? index with
  | some key => keypad.set key held
  | none => keypad

def setSelected (keypad : Keypad) (selection : KeySelection) (held : Bool) : Keypad :=
  match selection with
  | .none => keypad
  | .one index => keypad.setAt index held
  | .all => ⟨Vector.replicate 16 held⟩

def ofList? (keys : List Bool) : Option Keypad :=
  if count : keys.length = 16 then some ⟨⟨keys.toArray, by simpa using count⟩⟩ else none

def toList (keypad : Keypad) : List Bool := keypad.held.toList

def lowest? (keypad : Keypad) : Option Key := (List.finRange 16).find? keypad.isHeld

theorem isHeld_set (keypad : Keypad) (key other : Key) (held : Bool) :
    (keypad.set key held).isHeld other = if other = key then held else keypad.isHeld other := by
  simp [isHeld, set, Vector.getElem_set, Fin.ext_iff, eq_comm]

theorem toList_of_ofList? {keys : List Bool} {keypad : Keypad} (made : ofList? keys = some keypad) :
    keypad.toList = keys := by
  unfold ofList? at made
  split at made
  · cases made
    rfl
  · cases made

end Keypad
end Chip8
