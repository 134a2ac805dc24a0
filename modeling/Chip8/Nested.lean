import Chip8.Value

namespace Chip8

structure Outline where
  sizes : List Nat
  regular : Bool
deriving DecidableEq

def Outline.point : Outline := ⟨[], true⟩

def commonSizes : List Nat → List Nat → List Nat
  | a :: left, b :: right => if a = b then a :: commonSizes left right else []
  | _, _ => []

def Outline.meet (left right : Outline) : Outline where
  sizes := commonSizes left.sizes right.sizes
  regular := left.regular && right.regular && left.sizes == right.sizes

def shapeText (separator : String) : List Nat → String
  | [size] => "(" ++ toString size ++ ",)"
  | shape => "(" ++ separator.intercalate (shape.map toString) ++ ")"

def raggedText (sizes : List Nat) : String :=
  "setting an array element with a sequence. The requested array has an inhomogeneous shape " ++
    "after " ++ toString sizes.length ++ " dimensions. The detected shape was " ++
    shapeText ", " sizes ++ " + inhomogeneous part."

namespace Value

mutual

def outline : Value → Outline
  | list items =>
      let part := (commonOutline? items).getD .point
      ⟨items.length :: part.sizes, part.regular⟩
  | _ => .point

def commonOutline? : List Value → Option Outline
  | [] => none
  | item :: rest =>
      match commonOutline? rest with
      | some common => some (item.outline.meet common)
      | none => some item.outline

end

mutual

def leaves : Value → List Value
  | list items => leavesOfAll items
  | single => [single]

def leavesOfAll : List Value → List Value
  | [] => []
  | item :: rest => item.leaves ++ leavesOfAll rest

end

mutual

def hasGap : Value → Bool
  | nothing => true
  | list items => anyHasGap items
  | table entries => anyEntryHasGap entries
  | _ => false

def anyHasGap : List Value → Bool
  | [] => false
  | item :: rest => item.hasGap || anyHasGap rest

def anyEntryHasGap : List (String × Value) → Bool
  | [] => false
  | (_, value) :: rest => value.hasGap || anyEntryHasGap rest

end

end Value
end Chip8
