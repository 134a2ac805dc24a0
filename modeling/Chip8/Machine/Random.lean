/-!
# Random bytes

A counter-based generator: twenty rounds of Threefry on two 32-bit words. A key is never used
twice; it is split into one key to keep and one to draw from.
-/

namespace Chip8

structure RandomKey where
  high : UInt32
  low : UInt32
deriving DecidableEq

namespace RandomKey

def rotateLeft (word amount : UInt32) : UInt32 := (word <<< amount) ||| (word >>> (32 - amount))

def mix (words : UInt32 × UInt32) (amount : UInt32) : UInt32 × UInt32 :=
  let left := words.1 + words.2
  (left, rotateLeft words.2 amount ^^^ left)

def mixGroup (words : UInt32 × UInt32) (amounts : List UInt32) (first second number : UInt32) :
    UInt32 × UInt32 :=
  let mixed := amounts.foldl mix words
  (mixed.1 + first, mixed.2 + second + number)

def block (key : RandomKey) (counter : UInt32 × UInt32) : RandomKey :=
  let third := key.high ^^^ key.low ^^^ 0x1BD11BDA
  let even : List UInt32 := [13, 15, 26, 6]
  let odd : List UInt32 := [17, 29, 16, 24]
  let words := (counter.1 + key.high, counter.2 + key.low)
  let words := mixGroup words even key.low third 1
  let words := mixGroup words odd third key.high 2
  let words := mixGroup words even key.high key.low 3
  let words := mixGroup words odd key.low third 4
  let words := mixGroup words even third key.high 5
  ⟨words.1, words.2⟩

def ofSeed (seed : Int) : RandomKey := ⟨0, UInt32.ofNat (seed % 4294967296).toNat⟩

def child (key : RandomKey) (index : Nat) : RandomKey := key.block (0, UInt32.ofNat index)

def split (key : RandomKey) (count : Nat) : List RandomKey := (List.range count).map key.child

def next (key : RandomKey) : RandomKey := key.child 0

def spare (key : RandomKey) : RandomKey := key.child 1

theorem split_two (key : RandomKey) : key.split 2 = [key.next, key.spare] := rfl

def draw (key : RandomKey) : UInt8 :=
  let drawn := (key.child 1).block (0, 0)
  (drawn.high ^^^ drawn.low).toUInt8

def byte (key : RandomKey) : UInt8 := key.spare.draw

end RandomKey
end Chip8
