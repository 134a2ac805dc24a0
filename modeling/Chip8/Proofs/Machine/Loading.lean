import Chip8.Program

namespace Chip8

namespace Memory

theorem read_of_lt (memory : Memory) {address : Nat} (inside : address < 4096) :
    memory.read address = memory.cells[address] := by
  have clamp : min address 4095 = address := by omega
  simp only [read, clamp]

theorem read_of_le (memory : Memory) {address : Nat} (beyond : 4095 ≤ address) :
    memory.read address = memory.read 4095 := by
  have clamp : min address 4095 = 4095 := by omega
  simp only [read, clamp, Nat.min_self]

theorem read_writeAll (memory : Memory) (start : Nat) (bytes : List UInt8) {address : Nat}
    (inside : address < 4096) :
    (memory.writeAll start bytes).read address =
      if address < start then memory.read address
      else bytes[address - start]?.getD (memory.read address) := by
  induction bytes generalizing memory start with
  | nil => simp [writeAll]
  | cons byte rest ih =>
      rw [writeAll, ih, read_write _ _ _ _ inside]
      rcases Nat.lt_trichotomy address start with before | rfl | after
      · have later : address < start + 1 := by omega
        have other : address ≠ start := by omega
        simp [before, later, other]
      · simp
      · have next : address - start = address - (start + 1) + 1 := by omega
        have notBefore : ¬ address < start := by omega
        have notNext : ¬ address < start + 1 := by omega
        have other : address ≠ start := by omega
        simp [notBefore, notNext, other, next]

theorem read_writeAll_of_lt (memory : Memory) {start address : Nat} (bytes : List UInt8)
    (before : address < start) (inside : address < 4096) :
    (memory.writeAll start bytes).read address = memory.read address := by
  rw [read_writeAll _ _ _ inside, if_pos before]

theorem read_writeAll_add (memory : Memory) (start : Nat) {offset : Nat} {bytes : List UInt8}
    {byte : UInt8} (found : bytes[offset]? = some byte) (inside : start + offset < 4096) :
    (memory.writeAll start bytes).read (start + offset) = byte := by
  rw [read_writeAll _ _ _ inside, if_neg (by omega), Nat.add_sub_cancel_left, found,
    Option.getD_some]

theorem read_writeAll_of_outside (memory : Memory) {start address : Nat} {bytes : List UInt8}
    (outside : address < start ∨ start + bytes.length ≤ address) (inside : address < 4096) :
    (memory.writeAll start bytes).read address = memory.read address := by
  rcases outside with before | after
  · exact read_writeAll_of_lt memory bytes before inside
  · have none : bytes[address - start]? = none := List.getElem?_eq_none (by omega)
    rw [read_writeAll _ _ _ inside, if_neg (by omega), none, Option.getD_none]

end Memory

namespace Program

theorem length_ofWords (words : List Word) : (ofWords words).length = 2 * words.length := by
  induction words with
  | nil => rfl
  | cons word rest ih =>
      simp only [ofWords, List.flatMap_cons, wordBytes, List.length_append, List.length_cons]
        at ih ⊢
      simp only [ih, List.length_nil]
      omega

theorem getElem?_ofWords (words : List Word) (place : Nat) :
    (ofWords words)[2 * place]? = words[place]?.map (fun word : Word => (word >>> 8).toUInt8) ∧
      (ofWords words)[2 * place + 1]? = words[place]?.map UInt16.toUInt8 := by
  induction words generalizing place with
  | nil => simp [ofWords]
  | cons word rest ih =>
      cases place with
      | zero => simp [ofWords, wordBytes]
      | succ place => simpa [ofWords, wordBytes, Nat.mul_add] using ih place

theorem wordOf_word (word : Word) : wordOf (.number (.whole word.toNat)) = .ok word := by
  have small := word.toNat_lt
  have positive : ¬ (word.toNat : Int) < 0 := by omega
  have fits : ¬ (65536 : Int) ≤ word.toNat := by omega
  simp [wordOf, Number.toInt?, positive, fits]

theorem assemble_words (words : List Word) :
    assemble (words.map fun word => .number (.whole word.toNat)) = .ok (ofWords words) := by
  have checked : (words.map fun word : Word => Value.number (.whole word.toNat)).mapM wordOf =
      .ok words := by
    induction words with
    | nil => rfl
    | cons word rest ih =>
        rw [List.map_cons, List.mapM_cons, wordOf_word, ih]
        rfl
  rw [assemble, checked]
  rfl

end Program

namespace Machine

theorem join_bytes_toNat (high low : UInt8) :
    ((high.toUInt16 <<< 8) ||| low.toUInt16).toNat = 256 * high.toNat + low.toNat := by
  have small := high.toNat_lt
  have lower : low.toNat < 2 ^ 8 := low.toNat_lt
  have shifted : (high.toUInt16 <<< 8).toNat = high.toNat <<< 8 := by
    rw [UInt16.toNat_shiftLeft]
    simp [Nat.shiftLeft_eq]
    omega
  rw [UInt16.toNat_or, shifted, UInt8.toNat_toUInt16, ← Nat.shiftLeft_add_eq_or_of_lt lower,
    Nat.shiftLeft_eq]
  omega

theorem join_wordBytes (word : Word) :
    ((word >>> 8).toUInt8.toUInt16 <<< 8) ||| word.toUInt8.toUInt16 = word := by
  have small := word.toNat_lt
  have upper : (word >>> 8).toUInt8.toNat = word.toNat / 2 ^ 8 := by
    rw [UInt16.toNat_toUInt8, UInt16.toNat_shiftRight]
    simp [Nat.shiftRight_eq_div_pow]
    omega
  rw [← UInt16.toNat_inj, join_bytes_toNat, upper, UInt16.toNat_toUInt8]
  omega

theorem load_eq_ok_iff {machine loaded : Machine} {program : List UInt8} :
    machine.load program = .ok loaded ↔
      programStart + program.length ≤ Memory.size ∧
        loaded = { machine with memory := machine.memory.writeAll programStart program } := by
  unfold load
  split
  · rename_i fits
    simp [fits, eq_comm]
  · rename_i tooLarge
    simp [tooLarge]

theorem load_of_fits (machine : Machine) {program : List UInt8}
    (fits : programStart + program.length ≤ Memory.size) :
    machine.load program =
      .ok { machine with memory := machine.memory.writeAll programStart program } :=
  load_eq_ok_iff.mpr ⟨fits, rfl⟩

theorem load_eq {machine loaded : Machine} {program : List UInt8}
    (loads : machine.load program = .ok loaded) :
    loaded = { machine with memory := machine.memory.writeAll programStart program } :=
  (load_eq_ok_iff.mp loads).2

theorem wordAt_program {machine : Machine} {memory : Memory} {words : List Word}
    (fits : programStart + 2 * words.length ≤ Memory.size)
    (holds : machine.memory = memory.writeAll programStart (Program.ofWords words)) {place : Nat}
    (inside : place < words.length) {pc : UInt16} (there : pc.toNat = programStart + 2 * place) :
    machine.wordAt pc = words[place] := by
  simp only [programStart, Memory.size] at fits there
  have next : (pc + 1).toNat = 512 + (2 * place + 1) := by
    rw [UInt16.toNat_add, UInt16.toNat_one]
    omega
  have bytes := Program.getElem?_ofWords words place
  rw [List.getElem?_eq_getElem inside] at bytes
  have high : _ = (words[place] >>> 8).toUInt8 :=
    memory.read_writeAll_add 512 bytes.1 (by omega)
  have low : _ = words[place].toUInt8 :=
    memory.read_writeAll_add 512 bytes.2 (by omega)
  rw [wordAt, there, next, holds]
  simp only [programStart, high, low]
  exact join_wordBytes _

end Machine
end Chip8
