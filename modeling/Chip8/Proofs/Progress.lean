import Mathlib.Algebra.Order.Ring.Int
import Chip8.Progress

namespace Chip8.Progress
variable {State : Type} {progress : Progress} {total rate : Nat}

theorem loop_fst (progress : Progress) (body : Nat → State → State) (bars index : Nat)
    (state : State) (count : Nat) :
    (progress.loop body bars index state count).1 =
      (List.range' index count).foldl (fun state index => body index state) state := by
  induction count generalizing bars index state with
  | zero => rfl
  | succ count ih =>
      rw [List.range'_succ, List.foldl_cons]
      exact ih _ (index + 1) (body index state)

theorem run_fst (progress : Progress) (body : Nat → State → State) (state : State) :
    (progress.run body state).1 =
      (List.range progress.total.toNat).foldl (fun state index => body index state) state := by
  rw [List.range_eq_range']
  exact progress.loop_fst body 0 0 state _

/-! ## The events of a step -/

structure IsWhole (progress : Progress) (total rate : Nat) : Prop where
  steps : progress.total = total
  advance : progress.rate = rate
  parts : progress.parts = 1
  positive : 0 < rate

theorem IsWhole.rest (whole : progress.IsWhole total rate) (steps : Nat) :
    progress.rest steps = (steps % rate : Nat) := by
  rw [Progress.rest, whole.advance, whole.parts, Nat.cast_one, Int.mul_one,
    Int.fmod_eq_emod_of_nonneg _ (Int.natCast_nonneg rate), Int.natCast_mod]

theorem IsWhole.wholeSteps (whole : progress.IsWhole total rate) (amount : Int) :
    progress.wholeSteps amount = amount := by
  rw [Progress.wholeSteps, whole.parts, Nat.cast_one]
  exact Int.fdiv_one amount

/-- What the bar is told at a step: the first step opens it, every `rate` steps advance it by as
many, and the last step advances it by what is left and closes it. -/
def stepEvents (progress : Progress) (total rate index : Nat) : List ProgressEvent :=
  (if index = 0 then [.opened total progress.description] else []) ++
    (if rate ∣ index + 1 then [.advanced rate] else []) ++
    if index + 1 = total then
      (if rate ∣ total then [] else [.advanced (total % rate : Nat)]) ++ [.closed]
    else []

def openBars (total index : Nat) : Nat := if 0 < index ∧ index < total then 1 else 0

theorem isLast_eq (total index : Nat) :
    ((index : Int) == (total : Int) - 1) = decide (index + 1 = total) := by
  rw [Bool.eq_iff_iff, beq_iff_eq, decide_eq_true_iff]
  omega

theorem IsWhole.update (whole : progress.IsWhole total rate) {index : Nat}
    (inside : index < total) :
    progress.update (openBars total index) index =
      (1,
        (if index = 0 then [.opened total progress.description] else []) ++
          (if rate ∣ index + 1 then [.advanced rate] else []) ++
          if ¬ rate ∣ total ∧ index + 1 = total then [.advanced (total % rate : Nat)]
          else []) := by
  have due : (progress.rest ((index : Int) + 1) == 0) = decide (rate ∣ index + 1) := by
    have rest : progress.rest ((index : Int) + 1) = ((index + 1) % rate : Nat) := by
      exact_mod_cast whole.rest (index + 1)
    rw [rest, Bool.eq_iff_iff, beq_iff_eq, decide_eq_true_iff, Nat.dvd_iff_mod_eq_zero,
      Int.natCast_eq_zero]
  have remainder : progress.remainder = (total % rate : Nat) := by
    rw [Progress.remainder, whole.steps, whole.rest]
  have left : ((total % rate : Nat) != (0 : Int)) = decide (¬ rate ∣ total) := by
    rw [Bool.eq_iff_iff, bne_iff_ne, decide_eq_true_iff, Nat.dvd_iff_mod_eq_zero, ne_eq,
      Int.natCast_eq_zero]
  have opening : ((index : Int) == 0) = decide (index = 0) := by
    rw [Bool.eq_iff_iff, beq_iff_eq, decide_eq_true_iff, Int.natCast_eq_zero]
  have bars : (if decide (index = 0) then openBars total index + 1 else openBars total index) =
      1 := by
    by_cases first : index = 0
    · simp [first, openBars]
    · simp [first, openBars, inside, Nat.pos_of_ne_zero first]
  simp only [Progress.update, opening, bars, due, remainder, left, isLast_eq,
    whole.wholeSteps, whole.steps, whole.advance]
  simp

theorem IsWhole.close (whole : progress.IsWhole total rate) {index : Nat}
    (inside : index < total) :
    progress.close 1 index =
      (openBars total (index + 1), if index + 1 = total then [.closed] else []) := by
  by_cases last : index + 1 = total
  · simp [Progress.close, whole.steps, isLast_eq, openBars, last]
  · have more : index + 1 < total := by omega
    simp [Progress.close, whole.steps, isLast_eq, openBars, last, more]

theorem IsWhole.stepEvents_eq (whole : progress.IsWhole total rate) {index : Nat}
    (inside : index < total) :
    (progress.update (openBars total index) index).2 ++ (progress.close 1 index).2 =
      progress.stepEvents total rate index := by
  rw [whole.update inside, whole.close inside]
  by_cases last : index + 1 = total
  · by_cases divides : rate ∣ total <;> simp [stepEvents, last, divides]
  · simp [stepEvents, last]

theorem IsWhole.loop_events (whole : progress.IsWhole total rate) (body : Nat → State → State)
    (state : State) {index count : Nat} (inside : index + count ≤ total) :
    (progress.loop body (openBars total index) index state count).2 =
      (List.range' index count).flatMap (progress.stepEvents total rate) := by
  induction count generalizing index state with
  | zero => rfl
  | succ count ih =>
      have here : index < total := by omega
      have opened : (progress.update (openBars total index) index).1 = 1 := by
        rw [whole.update here]
      have kept : (progress.close 1 index).1 = openBars total (index + 1) := by
        rw [whole.close here]
      have later : index + 1 + count ≤ total := by omega
      have rest := ih (body index state) later
      rw [List.range'_succ, List.flatMap_cons, ← rest, ← whole.stepEvents_eq here, ← kept]
      simp only [loop, opened]

/-! ## All events of a loop -/

theorem flatMap_stepEvents (progress : Progress) (total rate : Nat) {done : Nat}
    (before : done < total) :
    (List.range done).flatMap (progress.stepEvents total rate) =
      (if done = 0 then [] else [.opened total progress.description]) ++
        List.replicate (done / rate) (.advanced rate) := by
  induction done with
  | zero => simp
  | succ done ih =>
      have goesOn : done + 1 ≠ total := by omega
      have more : (if done = 0 then [] else [.opened total progress.description]) ++
          List.replicate (done / rate) (.advanced rate) ++ progress.stepEvents total rate done =
          [.opened total progress.description] ++ List.replicate (done / rate) (.advanced rate) ++
            if rate ∣ done + 1 then [.advanced rate] else [] := by
        rw [stepEvents, if_neg goesOn]
        by_cases first : done = 0 <;> simp [first]
      rw [List.range_succ, List.flatMap_append, ih (by omega), List.flatMap_singleton, more,
        if_neg (Nat.succ_ne_zero done), Nat.succ_div, List.append_assoc]
      split
      · rw [List.replicate_succ']
      · rw [List.append_nil, Nat.add_zero]

def updates (total rate : Nat) : List Nat :=
  List.replicate ((total - 1) / rate) rate ++ [if rate ∣ total then rate else total % rate]

theorem bounds_of_mem_updates {total rate steps : Nat} (positive : 0 < rate)
    (member : steps ∈ updates total rate) : 0 < steps ∧ steps ≤ rate := by
  rw [updates, List.mem_append, List.mem_replicate, List.mem_singleton] at member
  rcases member with ⟨-, rfl⟩ | rfl
  · exact ⟨positive, Nat.le_refl _⟩
  · split
    · exact ⟨positive, Nat.le_refl _⟩
    · rename_i left
      exact ⟨Nat.pos_of_ne_zero fun zero => left (Nat.dvd_of_mod_eq_zero zero),
        Nat.le_of_lt (Nat.mod_lt total positive)⟩

theorem sum_updates {total : Nat} (positive : 0 < total) (rate : Nat) :
    (updates total rate).sum = total := by
  obtain ⟨last, rfl⟩ := Nat.exists_eq_succ_of_ne_zero (Nat.ne_of_gt positive)
  have division := Nat.div_add_mod' (last + 1) rate
  rw [Nat.succ_div] at division
  rw [updates, List.sum_append, List.sum_replicate_nat, List.sum_singleton, Nat.succ_sub_one]
  by_cases divides : rate ∣ last + 1
  · rw [if_pos divides, Nat.mod_eq_zero_of_dvd divides, Nat.add_mul] at division
    rw [if_pos divides]
    omega
  · rw [if_neg divides] at division ⊢
    exact division

theorem IsWhole.run_events (whole : progress.IsWhole total rate) (positive : 0 < total)
    (body : Nat → State → State) (state : State) :
    (progress.run body state).2 =
      .opened total progress.description ::
        (updates total rate).map (fun steps : Nat => .advanced steps) ++ [.closed] := by
  obtain ⟨last, rfl⟩ := Nat.exists_eq_succ_of_ne_zero (Nat.ne_of_gt positive)
  have inside : 0 + (last + 1) ≤ last + 1 := by omega
  have events := whole.loop_events body state inside
  have before := progress.flatMap_stepEvents (last + 1) rate (Nat.lt_succ_self last)
  have final : progress.stepEvents (last + 1) rate last =
      (if last = 0 then [.opened (last + 1 : Nat) progress.description] else []) ++
        [.advanced (if rate ∣ last + 1 then rate else (last + 1) % rate : Nat), .closed] := by
    rw [stepEvents, if_pos rfl]
    by_cases divides : rate ∣ last + 1 <;> simp [divides]
  rw [← List.range_eq_range', List.range_succ, List.flatMap_append, List.flatMap_singleton,
    before, final] at events
  rw [Progress.run, whole.steps, Int.toNat_natCast, updates, List.map_append, List.map_replicate]
  refine events.trans ?_
  by_cases first : last = 0 <;> simp [first]

theorem IsWhole.loop_events_of_lt (whole : progress.IsWhole total rate) {done : Nat}
    (started : 0 < done) (before : done < total) (body : Nat → State → State) (state : State) :
    (progress.loop body 0 0 state done).2 =
      .opened total progress.description ::
        (List.replicate (done / rate) rate).map fun steps : Nat => .advanced steps := by
  have inside : 0 + done ≤ total := by omega
  refine (whole.loop_events body state inside).trans ?_
  rw [← List.range_eq_range', progress.flatMap_stepEvents total rate before,
    if_neg (Nat.ne_of_gt started), List.map_replicate, List.singleton_append]

theorem replicate_prefix_updates {done : Nat} (before : done < total) :
    List.replicate (done / rate) rate <+: updates total rate := by
  have fewer : done / rate ≤ (total - 1) / rate := Nat.div_le_div_right (by omega)
  refine List.IsPrefix.trans ?_ (List.prefix_append _ _)
  exact ⟨List.replicate ((total - 1) / rate - done / rate) rate, by
    rw [List.replicate_append_replicate, Nat.add_sub_cancel' fewer]⟩

/-! ## Bars as they are asked for -/

theorem plan_isWhole {total rate : Nat} (asked : Option Int) (description : Option String)
    (effective : (rate : Int) = max 1 (asked.elim (min ((total : Int) / 20) 50) (min · total))) :
    (plan total (asked.map .whole) description).IsWhole total rate where
  steps := rfl
  advance := by
    rw [effective]
    cases asked with
    | none =>
        have whole : Int.fdiv total 20 = total / 20 := Int.fdiv_eq_ediv_of_nonneg _ (by decide)
        simp only [plan, effectiveRate, Option.map_none, Option.elim_none, whole]
    | some asked => rfl
  parts := by cases asked <;> rfl
  positive := by omega

/-- A loop under a progress bar computes what it computes without one. With no steps the bar is told
nothing. Otherwise it is opened first, with the number of steps, and closed last; in between it is
advanced by positive amounts, none above the rate: a twentieth of the steps but at most fifty, or
what is asked for, and in either case at least one. The amounts add up to the number of steps. After
every step but the last they add up to the last multiple of the rate that the loop has reached. -/
theorem bar_follows_loop (total : Int) (asked : Option Int) (description : Option String)
    (body : Nat → State → State) (state : State) :
    let progress : Progress := plan total (asked.map .whole) description
    let rate : Int := max 1 (asked.elim (min (total / 20) 50) fun asked => min asked total)
    (progress.run body state).1 =
        (List.range total.toNat).foldl (fun state index => body index state) state ∧
      (total ≤ 0 → (progress.run body state).2 = []) ∧
      (1 ≤ total → ∃ updates : List Nat,
        (progress.run body state).2 =
            .opened total progress.description ::
              updates.map (fun steps : Nat => .advanced steps) ++ [.closed] ∧
          (∀ steps ∈ updates, 0 < steps ∧ (steps : Int) ≤ rate) ∧
          (updates.sum : Int) = total ∧
          ∀ index : Nat, (index : Int) + 1 < total → ∃ passed, passed <+: updates ∧
            (progress.loop body 0 0 state (index + 1)).2 =
              .opened total progress.description ::
                passed.map (fun steps : Nat => .advanced steps) ∧
            (passed.sum : Int) = rate * ((index + 1) / rate) ∧ passed.sum ≤ index + 1) := by
  intro progress rate
  refine ⟨progress.run_fst body state, ?_, ?_⟩
  · intro empty
    have nothing : progress.total.toNat = 0 := Int.toNat_of_nonpos empty
    rw [run, nothing]
    rfl
  · intro positive
    obtain ⟨total, rfl⟩ := Int.eq_ofNat_of_zero_le (by omega : 0 ≤ total)
    obtain ⟨whole, same⟩ := Int.eq_ofNat_of_zero_le (by omega : 0 ≤ rate)
    have isWhole : progress.IsWhole total whole := plan_isWhole asked description same.symm
    refine ⟨updates total whole, isWhole.run_events (by omega) body state, ?_, ?_, ?_⟩
    · intro steps member
      rw [same]
      have bounds := bounds_of_mem_updates isWhole.positive member
      exact ⟨bounds.1, by omega⟩
    · rw [sum_updates (by omega) whole]
    · intro index before
      have inside : index + 1 < total := by omega
      refine ⟨_, replicate_prefix_updates inside,
        isWhole.loop_events_of_lt (Nat.succ_pos index) inside body state, ?_, ?_⟩
      · rw [same, List.sum_replicate_nat]
        push_cast
        rw [Int.mul_comm]
      · rw [List.sum_replicate_nat]
        exact Nat.div_mul_le_self (index + 1) whole

theorem bar_follows_loop_of_thirty_steps :
    let progress := plan 30 (some (.whole 7)) none
    let body (index sum : Nat) : Nat := sum + index
    (1 : Int) ≤ 30 ∧ (19 : Int) + 1 < 30 ∧ (progress.run body 0).1 = 435 ∧
      ∃ updates passed : List Nat,
        (progress.run body 0).2 =
            .opened 30 progress.description ::
              updates.map (fun steps : Nat => .advanced steps) ++ [.closed] ∧
          updates.sum = 30 ∧ passed <+: updates ∧
          (progress.loop body 0 0 0 20).2 =
            .opened 30 progress.description ::
              passed.map (fun steps : Nat => .advanced steps) ∧
          passed.sum = 14 := by
  intro progress body
  obtain ⟨last, -, events⟩ := bar_follows_loop 30 (some 7) none body 0
  obtain ⟨updates, told, -, sum, during⟩ := events (by decide)
  obtain ⟨passed, earlier, toldSoFar, reached, -⟩ := during 19 (by decide)
  refine ⟨by decide, by decide, last.trans (by decide), updates, passed, told, ?_, earlier,
    toldSoFar, ?_⟩
  · exact_mod_cast sum
  · exact Int.natCast_inj.mp (reached.trans (by decide))

end Chip8.Progress
