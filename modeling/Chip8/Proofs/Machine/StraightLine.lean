import Chip8.Proofs.Machine.Footprint
import Chip8.Proofs.Machine.Loading

namespace Chip8

/-- The program goes on with the next word, and its words stay what they are. -/
def Instruction.isStraight : Instruction → Bool
  | jump _ | call _ | leave | jumpOffset _ | skip _ | waitKey _ | digits _ | store _ => false
  | _ => true

theorem Instruction.not_mem_writes_of_isStraight {instruction : Instruction}
    (straight : instruction.isStraight) :
    .pc ∉ instruction.writes ∧ .memory ∉ instruction.writes ∧ .fault ∉ instruction.writes := by
  cases instruction with
  | jump _ | call _ | leave | jumpOffset _ | skip _ | waitKey _ | digits _ | store _ =>
      cases straight
  | arithmetic operation x y => cases operation <;> simp [writes, Arithmetic.hasFlag]
  | _ => simp [writes]

namespace Machine

def executeAll (machine : Machine) (words : List Word) : Machine :=
  words.foldl (fun machine word => machine.execute (decode word)) machine

def withPc (machine : Machine) (pc : UInt16) : Machine := { machine with pc }

variable {machine : Machine} {words : List Word}

theorem execute_withPc {instruction : Instruction} (spared : .pc ∉ instruction.writes)
    (machine : Machine) (pc : UInt16) :
    (machine.withPc pc).execute instruction = (machine.execute instruction).withPc pc := by
  cases instruction with
  | leave | jump _ | call _ | skip _ | jumpOffset _ | waitKey _ =>
      simp [Instruction.writes] at spared
  | arithmetic operation x y => cases operation <;> rfl
  | _ => rfl

theorem executeAll_concat (machine : Machine) (words : List Word) (word : Word) :
    machine.executeAll (words ++ [word]) = (machine.executeAll words).execute (decode word) := by
  simp [executeAll]

theorem executeAll_keeps (straight : ∀ word ∈ words, (decode word).isStraight)
    (machine : Machine) :
    (machine.executeAll words).memory = machine.memory ∧
      (machine.executeAll words).fault = machine.fault := by
  induction words generalizing machine with
  | nil => exact ⟨rfl, rfl⟩
  | cons word rest ih =>
      obtain ⟨_, memory, fault⟩ :=
        Instruction.not_mem_writes_of_isStraight (straight word List.mem_cons_self)
      obtain ⟨restMemory, restFault⟩ :=
        ih (fun later member => straight later (List.mem_cons_of_mem _ member))
          (machine.execute (decode word))
      exact ⟨restMemory.trans (execute_agreesOn memory machine),
        restFault.trans (execute_agreesOn fault machine)⟩

theorem step_of_isStraight {word : Word} {pc : UInt16} (running : machine.fault = none)
    (fetched : machine.wordAt pc = word) (straight : (decode word).isStraight) :
    (machine.withPc pc).step = (machine.execute (decode word)).withPc (pc + 2) := by
  have stillRunning : (machine.withPc pc).fault = none := running
  have sameWord : (machine.withPc pc).wordAt pc = word := fetched
  have spared := (Instruction.not_mem_writes_of_isStraight straight).1
  calc (machine.withPc pc).step
      = (machine.withPc (pc + 2)).execute (decode word) := by
        rw [step_of_fault_none stillRunning]
        exact congrArg (fun word => (machine.withPc (pc + 2)).execute (decode word)) sameWord
    _ = (machine.execute (decode word)).withPc (pc + 2) := execute_withPc spared machine _

def wordAddress (place : Nat) : UInt16 := UInt16.ofNat (programStart + 2 * place)

theorem wordAddress_toNat {place : Nat} (inside : programStart + 2 * place ≤ Memory.size) :
    (wordAddress place).toNat = programStart + 2 * place := by
  simp only [programStart, Memory.size] at inside
  refine UInt16.toNat_ofNat_of_lt' ?_
  simp only [programStart, UInt16.size]
  omega

theorem wordAddress_succ (place : Nat) : wordAddress (place + 1) = wordAddress place + 2 := by
  rw [wordAddress, Nat.mul_succ, ← Nat.add_assoc, UInt16.ofNat_add]
  rfl

theorem run_executeAll {memory : Memory} (running : machine.fault = none)
    (atStart : machine.pc = wordAddress 0)
    (holds : machine.memory = memory.writeAll programStart (Program.ofWords words))
    (fits : programStart + 2 * words.length ≤ Memory.size)
    (straight : ∀ word ∈ words, (decode word).isStraight) {count : Nat}
    (inside : count ≤ words.length) :
    machine.run count = (machine.executeAll (words.take count)).withPc (wordAddress count) := by
  -- The words so far have left the program in memory, so the next word is the one it holds there.
  induction count with
  | zero =>
      rw [← atStart]
      rfl
  | succ count ih =>
      have earlier : ∀ word ∈ words.take count, (decode word).isStraight :=
        fun word member => straight word (List.mem_of_mem_take member)
      obtain ⟨sameMemory, sameFault⟩ := executeAll_keeps earlier machine
      have fetched : (machine.executeAll (words.take count)).wordAt (wordAddress count) =
          words[count] :=
        wordAt_program fits (sameMemory.trans holds) inside (wordAddress_toNat (by omega))
      rw [run_succ_last, ih (by omega),
        step_of_isStraight (sameFault.trans running) fetched (straight _ (List.getElem_mem inside)),
        List.take_succ_eq_append_getElem inside, executeAll_concat, wordAddress_succ]

/-- A straight program that fits is loaded, and for every number of words that it has, running so
many steps from its start is executing so many of its words in order, with the program counter after
the last of them. -/
theorem run_straightLine (machine : Machine) (words : List Word) (running : machine.fault = none)
    (atStart : machine.pc = 0x200) (short : words.length ≤ 1792)
    (straight : ∀ word ∈ words, (decode word).isStraight) :
    ∃ program loaded,
      Program.assemble (words.map fun word => .number (.whole word.toNat)) = .ok program ∧
      machine.load program = .ok loaded ∧
      ∀ count ≤ words.length,
        (loaded.run count).pc.toNat = 0x200 + 2 * count ∧
        loaded.run count =
          (loaded.executeAll (words.take count)).withPc (loaded.run count).pc := by
  have fits : programStart + 2 * words.length ≤ Memory.size := by
    simp only [programStart, Memory.size]
    omega
  have loads : machine.load (Program.ofWords words) = .ok _ :=
    machine.load_of_fits (by rwa [Program.length_ofWords])
  generalize after :
    { machine with memory := machine.memory.writeAll programStart _ } = loaded at loads
  refine ⟨_, loaded, Program.assemble_words words, loads, fun count inside => ?_⟩
  have loadedRunning : loaded.fault = none := by rw [← after]; exact running
  have loadedAtStart : loaded.pc = wordAddress 0 := by rw [← after]; exact atStart
  have holds : loaded.memory = machine.memory.writeAll programStart (Program.ofWords words) := by
    rw [← after]
  rw [run_executeAll loadedRunning loadedAtStart holds fits straight inside]
  exact ⟨wordAddress_toNat (by omega), rfl⟩

theorem run_straightLine_of_sum :
    let words : List Word := [0x60F0, 0x6120, 0x8014, 0xC23F, 0xF01E]
    (powerOn ⟨0, 0⟩).fault = none ∧ (powerOn ⟨0, 0⟩).pc = 0x200 ∧
      (∀ word ∈ words, (decode word).isStraight) ∧
      ∃ program loaded,
        Program.assemble (words.map fun word => .number (.whole word.toNat)) = .ok program ∧
        (powerOn ⟨0, 0⟩).load program = .ok loaded ∧ (loaded.run 5).pc.toNat = 0x20A ∧
        loaded.run 5 = (loaded.executeAll words).withPc (loaded.run 5).pc := by
  intro words
  have straight : ∀ word ∈ words, (decode word).isStraight := List.all_eq_true.mp (by decide)
  obtain ⟨program, loaded, assembled, loads, runs⟩ :=
    run_straightLine (powerOn ⟨0, 0⟩) words rfl rfl (by decide) straight
  obtain ⟨pc, same⟩ := runs 5 (by decide)
  exact ⟨rfl, rfl, straight, program, loaded, assembled, loads, pc, same⟩

end Machine
end Chip8
