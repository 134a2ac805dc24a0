import Chip8.Proofs.Machine.Footprint
import Chip8.Proofs.Machine.History

namespace Chip8

inductive Timer where
  | delay
  | sound

def Timer.form : Timer → Form
  | delay => .firstByte 0xF015
  | sound => .firstByte 0xF018

/-- The value that a moment gives to a timer, if it sets it. A reset sets it to zero. -/
def Moment.setting? (timer : Timer) : Moment → Option UInt8
  | .executed found word => if word.HasForm timer.form then some (found.v word.x) else none
  | .reset => some 0
  | .ticked => none

def Moment.isTick : Moment → Bool
  | .ticked => true
  | .executed .. | .reset => false

namespace Timer

def lastSet (timer : Timer) (history : List Moment) : UInt8 :=
  (history.reverse.findSome? (Moment.setting? timer)).getD 0

/-- How often the timers have ticked since then, by themselves or at the start of a frame. -/
def ticksSince (timer : Timer) (history : List Moment) : Nat :=
  (history.reverse.takeWhile fun moment => (moment.setting? timer).isNone).countP Moment.isTick

def shown (timer : Timer) (history : List Moment) : Nat :=
  (timer.lastSet history).toNat - timer.ticksSince history

theorem shown_concat (timer : Timer) (history : List Moment) (moment : Moment) :
    timer.shown (history ++ [moment]) =
      match moment.setting? timer with
      | some value => value.toNat
      | none => if moment.isTick then timer.shown history - 1 else timer.shown history := by
  cases setting : moment.setting? timer with
  | some value => simp [shown, lastSet, ticksSince, setting]
  | none =>
      cases tick : moment.isTick with
      | false => simp [shown, lastSet, ticksSince, setting, tick]
      | true =>
          simp only [shown, lastSet, ticksSince, List.reverse_append, List.reverse_singleton,
            List.singleton_append, List.findSome?_cons, setting, List.takeWhile_cons,
            Option.isNone_none, if_true, List.countP_cons, tick]
          omega

end Timer

namespace Machine
variable {machine : Machine} {history : List Moment}

def timer (machine : Machine) : Timer → UInt8
  | .delay => machine.delayTimer
  | .sound => machine.soundTimer

theorem execute_timer (machine : Machine) (word : Word) (timer : Timer) :
    (machine.execute (decode word)).timer timer =
      if word.HasForm timer.form then machine.v word.x else machine.timer timer := by
  split
  · rename_i hasForm
    cases timer with
    | delay => rw [decode_setDelay hasForm]; rfl
    | sound => rw [decode_setSound hasForm]; rfl
  · rename_i other
    cases timer with
    | delay =>
        have spared : ¬ Field.delayTimer.WrittenBy word := other
        exact execute_agreesOn_of_not_writtenBy spared machine
    | sound =>
        have spared : ¬ Field.soundTimer.WrittenBy word := other
        exact execute_agreesOn_of_not_writtenBy spared machine

theorem tickTimers_timer (machine : Machine) (timer : Timer) :
    (machine.tickTimers.timer timer).toNat = (machine.timer timer).toNat - 1 := by
  have countDown (value : UInt8) :
      (if value = 0 then 0 else value - 1).toNat = value.toNat - 1 := by
    split
    · rename_i zero
      rw [zero]
      rfl
    · rename_i positive
      have least : 1 ≤ value := by
        have nonzero : value.toNat ≠ 0 := fun zero => positive (UInt8.toNat_inj.mp zero)
        rw [UInt8.le_iff_toNat_le, UInt8.toNat_one]
        omega
      rw [UInt8.toNat_sub_of_le value 1 least, UInt8.toNat_one]
  cases timer with
  | delay => exact countDown machine.delayTimer
  | sound => exact countDown machine.soundTimer

theorem Path.timer {start : Machine} (fresh : ∀ timer, start.timer timer = 0)
    (path : Path start history machine) (timer : Timer) :
    (machine.timer timer).toNat = timer.shown history := by
  -- A tick subtracts one on both sides; setting a timer starts the count of ticks anew.
  induction path with
  | start => simp [fresh timer, Timer.shown, Timer.lastSet]
  | fetched _ _ ih | pressed _ _ ih => exact ih
  | executed _ word ih =>
      rw [Timer.shown_concat, execute_timer]
      by_cases sets : word.HasForm timer.form
      · simp [Moment.setting?, sets]
      · simp [Moment.setting?, Moment.isTick, sets, ih]
  | loaded _ fits ih => rw [load_eq fits]; exact ih
  | ticked _ ih =>
      rw [Timer.shown_concat, tickTimers_timer, ih]
      rfl
  | reset =>
      rw [Timer.shown_concat]
      cases timer <;> rfl

theorem powerOn_timer (random : RandomKey) (timer : Timer) : (powerOn random).timer timer = 0 := by
  cases timer <;> rfl

theorem execute_getDelay_v (machine : Machine) {word : Word}
    (hasForm : word.HasForm (.firstByte 0xF007)) :
    (machine.execute (decode word)).v word.x = machine.timer .delay := by
  rw [decode_getDelay hasForm]
  have written := v_setV machine word.x word.x machine.delayTimer
  rwa [if_pos rfl] at written

/-- After every sequence of actions, and before every instruction on the way, each timer shows the
value that it was set to last since the last reset, less the ticks since then but not less than
zero. Frames tick once each, also when the machine has stopped. So a timer at zero stays there, and
`FX07` reads that same value. -/
theorem timers_count_down (random : RandomKey) (actions : List Action) :
    let machine := (powerOn random).performAll actions
    let history := (powerOn random).history actions
    (∀ timer : Timer, (machine.timer timer).toNat = timer.shown history ∧
        (machine.tickTimers.timer timer).toNat = timer.shown history - 1) ∧
      ∀ before found word after, history = before ++ .executed found word :: after →
        (∀ timer : Timer, (found.timer timer).toNat = timer.shown before) ∧
          (word.HasForm (.firstByte 0xF007) →
            ((found.execute (decode word)).v word.x).toNat = Timer.delay.shown before) := by
  intro machine history
  have path := path_history (powerOn random) actions
  constructor
  · intro timer
    have atEnd : (machine.timer timer).toNat = timer.shown history :=
      path.timer (powerOn_timer random) timer
    exact ⟨atEnd, by rw [tickTimers_timer, atEnd]⟩
  · intro before found word after split
    have here (timer : Timer) : (found.timer timer).toNat = timer.shown before :=
      (path.before_executed split).timer (powerOn_timer random) timer
    refine ⟨here, fun hasForm => ?_⟩
    rw [execute_getDelay_v found hasForm]
    exact here .delay

theorem timers_count_down_of_short_delay :
    let started : List Action :=
      [.load [0x60, 0x05, 0xF0, 0x15, 0xF1, 0x07, 0x00, 0xEE], .run 2, .tickTimers,
        .runFrame .released 0]
    let found := (powerOn ⟨0, 0⟩).performAll started
    let actions := started ++ [.run 5, .runFrames (List.replicate 4 .released) 5]
    let machine := (powerOn ⟨0, 0⟩).performAll actions
    ((found.fetch.1.execute (decode found.fetch.2)).v found.fetch.2.x).toNat = 5 - 2 ∧
      machine.isHalted ∧ (machine.timer .delay).toNat = 5 - 6 := by
  intro started found actions machine
  have counts := timers_count_down ⟨0, 0⟩ actions
  have running : found.isHalted = false := by decide +kernel
  have first : found.stepMoments = [.executed found.fetch.1 found.fetch.2] := by
    rw [stepMoments, running]
    rfl
  have split := history_append (powerOn ⟨0, 0⟩) started
    [.run 5, .runFrames (List.replicate 4 .released) 5]
  change _ = _ ++ (found.stepMoments ++ found.step.runMoments 4 ++ _) at split
  rw [first] at split
  have read := (counts.2 _ _ _ _ split).2 (by decide +kernel)
  have shownThen : Timer.delay.shown ((powerOn ⟨0, 0⟩).history started) = 5 - 2 := by
    decide +kernel
  have shownLast : Timer.delay.shown ((powerOn ⟨0, 0⟩).history actions) = 5 - 6 := by
    decide +kernel
  exact ⟨read.trans shownThen, by decide +kernel, (counts.1 .delay).1.trans shownLast⟩

end Machine
end Chip8
