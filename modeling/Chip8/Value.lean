import Chip8.Decimal.Shortest
import Chip8.Text.Digits
import Chip8.Text.Quoted

/-!
# Loosely typed values

What a settings table or a script holds before it is checked. `display` is the text of a value on
its own, `inspect` its text inside another value; they differ for text, which is quoted inside.
-/

namespace Chip8

inductive Number where
  | flag (value : Bool)
  | whole (value : Int)
  | real (value : Float)

/-- A thing of some other kind, by what is asked of it: whether it counts as true, can be looked up
in a table, and stands for a whole number, and how it is written. Numbers cannot be added to it. -/
structure Thing where
  kindName : String
  isTrue : Bool
  isName : Bool
  whole? : Option Int
  display : String
  inspect : String

inductive Value where
  | nothing
  | number (value : Number)
  | text (value : String)
  | brokenText (value : BrokenText)
  | bytes (value : List UInt8)
  | other (thing : Thing)
  | list (items : List Value)
  | table (entries : List (String × Value))
deriving Inhabited

namespace Number

def toInt? : Number → Option Int
  | flag value => some value.toInt
  | whole value => some value
  | real _ => none

def toFloat : Number → Float
  | flag value => if value then 1.0 else 0.0
  | whole value => Float.ofInt value
  | real value => value

def real? (number : Number) : Option Float :=
  match number with
  | real value => some value
  | other => if other.toFloat.isInf then none else some other.toFloat

def isLessThan (number : Number) (bound : Int) : Bool :=
  match number.toInt? with
  | some value => value < bound
  | none => number.toFloat < Float.ofInt bound

def isAtLeast (number : Number) (bound : Int) : Bool :=
  match number.toInt? with
  | some value => bound ≤ value
  | none => Float.ofInt bound ≤ number.toFloat

def isAtMost (number : Number) (bound : Int) : Bool :=
  match number.toInt? with
  | some value => value ≤ bound
  | none => number.toFloat ≤ Float.ofInt bound

def isTrue (number : Number) : Bool :=
  match number.toInt? with
  | some value => value != 0
  | none => number.toFloat != 0.0

def truncate? (number : Number) : Option Int :=
  match number with
  | flag value => some value.toInt
  | whole value => some value
  | real value => (Decimal.Binary.ofFloat value).truncate?

/-- Whole operands are combined exactly; if one is not whole, both are taken as floating-point
numbers, which `none` says is impossible. -/
def combine? (exact : Int → Int → Int) (rounded : Float → Float → Float) (left right : Number) :
    Option Number :=
  match left.toInt?, right.toInt? with
  | some a, some b => some (whole (exact a b))
  | _, _ => return real (rounded (← left.real?) (← right.real?))

def add? : Number → Number → Option Number := combine? (· + ·) (· + ·)

def sub? : Number → Number → Option Number := combine? (· - ·) (· - ·)

def mul? : Number → Number → Option Number := combine? (· * ·) (· * ·)

theorem add?_whole (left right : Int) :
    add? (whole left) (whole right) = some (whole (left + right)) := rfl

theorem sub?_whole (left right : Int) :
    sub? (whole left) (whole right) = some (whole (left - right)) := rfl

def display : Number → String
  | flag value => if value then "True" else "False"
  | whole value => toString value
  | real value => Decimal.shortest value

def grouped (number : Number) : String :=
  match number.toInt? with
  | some value => Text.grouped value
  | none => Text.groupedText number.display

def kindName : Number → String
  | flag _ => "bool"
  | whole _ => "int"
  | real _ => "float"

end Number

namespace Value

mutual

def inspect : Value → String
  | nothing => "None"
  | number value => value.display
  | text value => Text.quoted value
  | brokenText value => value.quoted
  | bytes value => Text.quotedBytes value
  | other thing => thing.inspect
  | list items => "[" ++ ", ".intercalate (inspectAll items) ++ "]"
  | table entries => "\x7b" ++ ", ".intercalate (inspectEntries entries) ++ "\x7d"

def inspectAll : List Value → List String
  | [] => []
  | item :: rest => item.inspect :: inspectAll rest

def inspectEntries : List (String × Value) → List String
  | [] => []
  | (name, value) :: rest => (Text.quoted name ++ ": " ++ value.inspect) :: inspectEntries rest

end

def display : Value → String
  | text value => value
  | brokenText value => value.escaped
  | other thing => thing.display
  | value => value.inspect

def isTrue : Value → Bool
  | nothing => false
  | number value => value.isTrue
  | text value => value != ""
  | brokenText _ => true
  | bytes value => !value.isEmpty
  | other thing => thing.isTrue
  | list items => !items.isEmpty
  | table entries => !entries.isEmpty

def times? (count : Nat) : Value → Option Value
  | number value => (Number.mul? (.whole count) value).map number
  | text value => some (text (String.join (List.replicate count value)))
  | brokenText value =>
      if count = 0 then some (text "")
      else some (brokenText ((List.replicate (count - 1) value).foldl BrokenText.append value))
  | bytes value => some (bytes (List.replicate count value).flatten)
  | list items => some (list (List.replicate count items).flatten)
  | nothing | table _ | other _ => none

def kindName : Value → String
  | nothing => "NoneType"
  | number value => value.kindName
  | text _ | brokenText _ => "str"
  | bytes _ => "bytes"
  | other thing => thing.kindName
  | list _ => "list"
  | table _ => "dict"

end Value
end Chip8
