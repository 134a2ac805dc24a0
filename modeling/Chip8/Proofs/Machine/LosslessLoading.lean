import Mathlib.Data.List.Forall2
import Chip8.Proofs.Machine.Loading

namespace Chip8.Machine

/-- The bytes of the program are in memory, one after the other from 0x200 on, and everything else
is as it was. -/
structure Takes (machine : Machine) (program : List UInt8) (loaded : Machine) : Prop where
  fits : program.length ≤ 3584
  bytes : ∀ (place : Nat) (inside : place < program.length),
    loaded.memory.cells[0x200 + place] = program[place]
  outside : ∀ (address : Nat) (inside : address < 4096),
    address < 0x200 ∨ 0x200 + program.length ≤ address →
      loaded.memory.cells[address] = machine.memory.cells[address]
  others : { loaded with memory := machine.memory } = machine

variable {machine loaded : Machine} {program : List UInt8}

theorem fits_iff : programStart + program.length ≤ Memory.size ↔ program.length ≤ 3584 := by
  simp only [programStart, Memory.size]
  omega

theorem takes_of_load (loads : machine.load program = .ok loaded) :
    machine.Takes program loaded := by
  obtain ⟨small, rfl⟩ := load_eq_ok_iff.mp loads
  have fits := fits_iff.mp small
  refine ⟨fits, ?_, ?_, rfl⟩
  · intro place inside
    have valid : 0x200 + place < 4096 := by omega
    rw [← Memory.read_of_lt]
    exact machine.memory.read_writeAll_add _ (List.getElem?_eq_getElem inside) valid
  · intro address inside outside
    rw [← Memory.read_of_lt, ← Memory.read_of_lt]
    exact machine.memory.read_writeAll_of_outside outside inside

theorem Takes.again {once twice : Machine} {first second : List UInt8}
    (takes : machine.Takes first once) (again : once.Takes second twice) :
    machine.Takes (second ++ first.drop second.length) twice := by
  have firstFits := takes.fits
  have secondFits := again.fits
  have length : (second ++ first.drop second.length).length = max first.length second.length := by
    simp only [List.length_append, List.length_drop]
    omega
  refine ⟨by omega, ?_, ?_, ?_⟩
  · intro place inside
    by_cases covered : place < second.length
    · rw [List.getElem_append_left covered]
      exact again.bytes place covered
    · have left : place < first.length := by omega
      have past : 0x200 + second.length ≤ 0x200 + place := by omega
      have byte : once.memory.cells[0x200 + place] = first[place] := takes.bytes place left
      rw [List.getElem_append_right (by omega), List.getElem_drop,
        again.outside _ (by omega) (.inr past), byte]
      congr 1
      omega
  · intro address inside outside
    rw [again.outside address inside (by omega), takes.outside address inside (by omega)]
  · have before := takes.others
    rw [← again.others] at before
    exact before

theorem loadBatch_of_fits (machines : List Machine) (fits : program.length ≤ 3584) :
    ∃ loaded, loadBatch machines program = .ok loaded ∧
      List.Forall₂ (fun before after => before.load program = .ok after) machines loaded := by
  have small := fits_iff.mpr fits
  refine ⟨_, if_pos small, ?_⟩
  rw [List.forall₂_map_right_iff, List.forall₂_same]
  intro machine _
  exact machine.load_of_fits small

theorem refuses_of_large (machines : List Machine) (large : 3584 < program.length) :
    loadBatch machines program = .error (.tooLarge program.length 3584) ∧
      ∀ machine : Machine, machine.load program = .error (.tooLarge program.length 3584) := by
  have tooLarge : ¬ programStart + program.length ≤ Memory.size :=
    fun fits => Nat.not_lt_of_le (fits_iff.mp fits) large
  exact ⟨if_neg tooLarge, fun machine => if_neg tooLarge⟩

theorem forall_load_twice {first second : List UInt8} {machines once twice : List Machine}
    (loads : List.Forall₂ (fun before after => before.load first = .ok after) machines once)
    (again : List.Forall₂ (fun before after => before.load second = .ok after) once twice) :
    List.Forall₂ (fun before after => ∃ between : Machine,
      before.load first = .ok between ∧ between.load second = .ok after) machines twice := by
  induction loads generalizing twice with
  | nil =>
      cases again
      exact .nil
  | cons one _ ih =>
      cases again with
      | cons two rest => exact .cons ⟨_, one, two⟩ (ih rest)

theorem fetch_of_load {words : List Word}
    (loads : machine.load (Program.ofWords words) = .ok loaded) {state : Machine}
    (same : state.memory = loaded.memory) {place : Nat} (inside : place < words.length)
    (there : state.pc.toNat = 0x200 + 2 * place) :
    state.fetch =
      ({ state with pc := UInt16.ofNat (0x200 + 2 * place + 2) }, words[place]) := by
  obtain ⟨fits, loadedEq⟩ := load_eq_ok_iff.mp loads
  rw [Program.length_ofWords] at fits
  have holds : state.memory = machine.memory.writeAll programStart (Program.ofWords words) := by
    rw [same, loadedEq]
  have word : state.wordAt state.pc = words[place] := wordAt_program fits holds inside there
  have next : state.pc + 2 = UInt16.ofNat (0x200 + 2 * place + 2) := by
    rw [UInt16.ofNat_add, ← there, UInt16.ofNat_toNat]
    rfl
  rw [fetch, word, next]

/-- A batch of machines, and each of its machines alone, takes every program of up to 3584 bytes and
refuses every longer one with its size and that capacity. Words are assembled to two bytes each, and
a machine with the memory of one that took them fetches at the place of each word that word, and its
program counter is then behind it. A second program covers the first as far as it is long, and the
tail of a longer first one is still there. -/
theorem loads_losslessly (machines : List Machine) :
    (∀ program : List UInt8,
      (program.length ≤ 3584 → ∃ loaded, loadBatch machines program = .ok loaded ∧
        List.Forall₂ (fun before after => before.load program = .ok after ∧
          before.Takes program after) machines loaded) ∧
      (3584 < program.length →
        loadBatch machines program = .error (.tooLarge program.length 3584) ∧
        ∀ machine : Machine,
          machine.load program = .error (.tooLarge program.length 3584))) ∧
    (∀ words : List Word, ∃ program,
      Program.assemble (words.map fun word => .number (.whole word.toNat)) = .ok program ∧
      program.length = 2 * words.length ∧
      ∀ before after : Machine, before.load program = .ok after →
        ∀ state : Machine, state.memory = after.memory →
          ∀ (place : Nat) (inside : place < words.length),
            state.pc.toNat = 0x200 + 2 * place →
            state.fetch =
              ({ state with pc := UInt16.ofNat (0x200 + 2 * place + 2) }, words[place])) ∧
    (∀ first second : List UInt8, first.length ≤ 3584 → second.length ≤ 3584 →
      ∃ once twice, loadBatch machines first = .ok once ∧ loadBatch once second = .ok twice ∧
        List.Forall₂ (fun before after => ∃ between : Machine,
          before.load first = .ok between ∧ between.load second = .ok after ∧
          before.Takes (second ++ first.drop second.length) after) machines twice) := by
  refine ⟨?_, ?_, ?_⟩
  · intro program
    refine ⟨fun fits => ?_, refuses_of_large machines⟩
    obtain ⟨loaded, loads, each⟩ := loadBatch_of_fits machines fits
    exact ⟨loaded, loads, each.imp fun _ _ one => ⟨one, takes_of_load one⟩⟩
  · intro words
    refine ⟨_, Program.assemble_words words, Program.length_ofWords words, ?_⟩
    intro before after loads state same place inside there
    exact fetch_of_load loads same inside there
  · intro first second firstFits secondFits
    obtain ⟨once, loadsOnce, eachOnce⟩ := loadBatch_of_fits machines firstFits
    obtain ⟨twice, loadsTwice, eachTwice⟩ := loadBatch_of_fits once secondFits
    refine ⟨once, twice, loadsOnce, loadsTwice, (forall_load_twice eachOnce eachTwice).imp ?_⟩
    intro _ _ ⟨between, one, two⟩
    exact ⟨between, one, two, (takes_of_load one).again (takes_of_load two)⟩

theorem loads_losslessly_of_full_memory :
    let words : List Word := [0x1234, 0xABCD]
    let full : List UInt8 := List.replicate 3584 0x60
    (∃ program loaded,
      Program.assemble (words.map fun word => .number (.whole word.toNat)) = .ok program ∧
      (powerOn ⟨0, 0⟩).load program = .ok loaded ∧
      { loaded with pc := 0x202 }.fetch = ({ loaded with pc := 0x204 }, 0xABCD)) ∧
    (∃ once twice, loadBatch [powerOn ⟨0, 0⟩] full = .ok once ∧
      loadBatch once [1, 2, 3] = .ok twice ∧
      ∃ last ∈ twice, last.memory.read 0x202 = 3 ∧ last.memory.read 0x203 = 0x60 ∧
        last.memory.read 0xFFF = 0x60) ∧
    loadBatch [] (0 :: full) = .error (.tooLarge 3585 3584) := by
  intro words full
  have size : full.length = 3584 := List.length_replicate
  have filled (place : Nat) (inside : place < full.length) : full[place] = 0x60 :=
    List.getElem_replicate inside
  clear_value full
  refine ⟨?_, ?_, ?_⟩
  · obtain ⟨takes, assembles, -⟩ := loads_losslessly [powerOn ⟨0, 0⟩]
    obtain ⟨program, assembled, length, fetches⟩ := assembles words
    have short : program.length ≤ 3584 := by
      rw [length]
      decide
    obtain ⟨_, -, both⟩ := (takes program).1 short
    cases both with
    | @cons _ loaded _ _ first _ =>
      have there := fetches _ loaded first.1 { loaded with pc := 0x202 } rfl 1 (by decide) rfl
      exact ⟨program, loaded, assembled, first.1, there⟩
  · obtain ⟨-, -, covers⟩ := loads_losslessly [powerOn ⟨0, 0⟩]
    obtain ⟨once, twice, loadsOnce, loadsTwice, takes⟩ :=
      covers full [1, 2, 3] (Nat.le_of_eq size) (by decide)
    cases takes with
    | @cons _ last _ _ both _ =>
      obtain ⟨_, -, -, first⟩ := both
      have total : ([1, 2, 3] ++ full.drop 3).length = 3584 := by
        rw [List.length_append, List.length_drop, size]
        rfl
      have covered := first.bytes 2 (total ▸ by decide)
      have next := first.bytes 3 (total ▸ by decide)
      have final := first.bytes 3583 (total ▸ by decide)
      rw [List.getElem_append_right (by decide), List.getElem_drop, filled] at next final
      exact ⟨once, _, loadsOnce, loadsTwice, last, List.mem_cons_self, covered, next, final⟩
  · have longer : (0 :: full).length = 3585 := by rw [List.length_cons, size]
    have refused := ((loads_losslessly []).1 (0 :: full)).2 (longer ▸ by decide)
    rw [longer] at refused
    exact refused.1

end Chip8.Machine
