import Mathlib.Logic.Function.Iterate
import Chip8.Proofs.Machine.Footprint
import Chip8.Proofs.Machine.History

namespace Chip8

def Moment.draws : Moment → Bool
  | .executed _ word => word.HasForm (.first 0xC000)
  | .ticked | .reset => false

def randomDraws (history : List Moment) : Nat := history.countP Moment.draws

theorem randomDraws_concat (history : List Moment) (moment : Moment) :
    randomDraws (history ++ [moment]) = randomDraws history + if moment.draws then 1 else 0 := by
  rw [randomDraws, List.countP_append, List.countP_singleton, randomDraws]

namespace Machine
variable {machine : Machine} {history : List Moment}

theorem execute_random (machine : Machine) (word : Word) :
    (machine.execute (decode word)).random =
      if word.HasForm (.first 0xC000) then machine.random.next else machine.random := by
  split
  · rename_i hasForm
    rw [decode_random hasForm]
    rfl
  · rename_i other
    have spared : ¬ Field.random.WrittenBy word := other
    exact execute_agreesOn_of_not_writtenBy spared machine

theorem execute_random_v (machine : Machine) {word : Word}
    (hasForm : word.HasForm (.first 0xC000)) :
    (machine.execute (decode word)).v word.x = machine.random.byte &&& word.nn := by
  rw [decode_random hasForm]
  have written := v_setV machine word.x word.x (machine.random.byte &&& word.nn)
  rwa [if_pos rfl] at written

theorem Path.random {start : Machine} (path : Path start history machine) :
    machine.random = RandomKey.next^[randomDraws history] start.random := by
  -- A reset switches the machine on again with the key that it has by then.
  induction path with
  | start => rfl
  | fetched _ _ ih | pressed _ _ ih => exact ih
  | executed _ word ih =>
      rw [randomDraws_concat, execute_random, ih]
      by_cases draws : word.HasForm (.first 0xC000)
      · simp only [Moment.draws, draws, if_true, decide_true, Function.iterate_succ_apply']
      · simp [Moment.draws, draws]
  | loaded _ fits ih => rw [load_eq fits]; exact ih
  | ticked _ ih | reset _ ih =>
      rw [randomDraws_concat]
      exact ih

/-- A key is split into the one to keep and the one to draw from. Two machines that were switched on
with the same key and have drawn as many random bytes have the same key: the one that so many splits
leave. And the byte that a draw masks is told by the first key and by the number of draws before it,
whatever the program, the register, the mask and the host are. -/
theorem random_stream (random : RandomKey) :
    (∀ key : RandomKey, (key.split 2).head? = some key.next ∧
        (key.split 2)[1]?.map RandomKey.draw = some key.byte) ∧
      (∀ first second : List Action,
        randomDraws ((powerOn random).history first) =
            randomDraws ((powerOn random).history second) →
          ((powerOn random).performAll first).random =
            ((powerOn random).performAll second).random) ∧
      ∀ actions : List Action,
        let history := (powerOn random).history actions
        ((powerOn random).performAll actions).random =
            RandomKey.next^[randomDraws history] random ∧
          ∀ before found word after, history = before ++ .executed found word :: after →
            let key := RandomKey.next^[randomDraws before] random
            found.random = key ∧
              (word.HasForm (.first 0xC000) →
                (found.execute (decode word)).v word.x = key.byte &&& word.nn) := by
  have atEnd (actions : List Action) := (path_history (powerOn random) actions).random
  refine ⟨fun key => ?_, fun first second same => ?_, fun actions => ⟨atEnd actions, ?_⟩⟩
  · rw [key.split_two]
    exact ⟨rfl, rfl⟩
  · rw [atEnd first, atEnd second, same]
  · intro before found word after split key
    have here : found.random = key := ((path_history _ actions).before_executed split).random
    exact ⟨here, fun hasForm => by rw [execute_random_v found hasForm, here]⟩

theorem random_stream_of_one_draw :
    let first : List Action := [.load [0xC0, 0xFF], .step]
    let second : List Action :=
      [.load [0x00, 0xE0], .runFrame .released 3, .reset, .load [0x61, 0x07, 0xC5, 0xFF], .run 2]
    randomDraws ((powerOn ⟨0, 7⟩).history first) = randomDraws ((powerOn ⟨0, 7⟩).history second) ∧
      ((powerOn ⟨0, 7⟩).performAll first).random = ((powerOn ⟨0, 7⟩).performAll second).random := by
  intro first second
  have same : randomDraws ((powerOn ⟨0, 7⟩).history first) =
      randomDraws ((powerOn ⟨0, 7⟩).history second) := by decide +kernel
  exact ⟨same, (random_stream ⟨0, 7⟩).2.1 first second same⟩

end Machine
end Chip8
