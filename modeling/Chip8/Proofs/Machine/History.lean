import Chip8.Proofs.Machine.Loading
import Chip8.Proofs.Machine.Stepping

/-!
# Histories

A host acts on a machine in any order. An action is made of moments: each instruction that is
executed on the way, each tick of the timers, and each reset. `Path` takes a machine from moment to
moment, and every sequence of actions follows one (`path_history`), so what each moment preserves
is an invariant of all machines that a host can reach.
-/

namespace Chip8

inductive Action where
  | load (program : List UInt8)
  | execute (word : Word)
  | step
  | run (count : Nat)
  | runFrame (keypad : Keypad) (count : Nat)
  | runFrames (keypads : List Keypad) (count : Nat)
  | tickTimers
  | setKey (selection : KeySelection) (held : Bool)
  | setKeys (keypad : Keypad)
  | reset

inductive Moment where
  | executed (machine : Machine) (word : Word)
  | ticked
  | reset

namespace Machine

/-- The machine after an action. A program that does not fit leaves it as it is. -/
def perform (machine : Machine) : Action → Machine
  | .load program =>
      match machine.load program with
      | .ok loaded => loaded
      | .error _ => machine
  | .execute word => machine.execute (decode word)
  | .step => machine.step
  | .run count => machine.run count
  | .runFrame keypad count => machine.runFrame keypad count
  | .runFrames keypads count => (machine.runFrames keypads count).1
  | .tickTimers => machine.tickTimers
  | .setKey selection held => machine.setSelected selection held
  | .setKeys keypad => machine.setKeys keypad
  | .reset => machine.reset

def performAll (machine : Machine) (actions : List Action) : Machine :=
  actions.foldl perform machine

def stepMoments (machine : Machine) : List Moment :=
  if machine.isHalted then [] else [.executed machine.fetch.1 machine.fetch.2]

def runMoments (machine : Machine) : (count : Nat) → List Moment
  | 0 => []
  | count + 1 => machine.stepMoments ++ machine.step.runMoments count

def frameMoments (machine : Machine) (keypad : Keypad) (count : Nat) : List Moment :=
  .ticked :: (machine.tickTimers.setKeys keypad).runMoments count

def framesMoments (machine : Machine) : (keypads : List Keypad) → (count : Nat) → List Moment
  | [], _ => []
  | keypad :: rest, count =>
      machine.frameMoments keypad count ++ (machine.runFrame keypad count).framesMoments rest count

def moments (machine : Machine) : Action → List Moment
  | .execute word => [.executed machine word]
  | .step => machine.stepMoments
  | .run count => machine.runMoments count
  | .runFrame keypad count => machine.frameMoments keypad count
  | .runFrames keypads count => machine.framesMoments keypads count
  | .tickTimers => [.ticked]
  | .reset => [.reset]
  | .load _ | .setKey .. | .setKeys _ => []

def history (machine : Machine) : (actions : List Action) → List Moment
  | [] => []
  | action :: rest => machine.moments action ++ (machine.perform action).history rest

theorem history_append (machine : Machine) (first second : List Action) :
    machine.history (first ++ second) =
      machine.history first ++ (machine.performAll first).history second := by
  induction first generalizing machine with
  | nil => rfl
  | cons action rest ih =>
      rw [List.cons_append, history, ih, history, List.append_assoc]
      rfl

/-- How a machine comes from `start`, one moment after the other, and with which history. -/
inductive Path (start : Machine) : List Moment → Machine → Prop where
  | start : Path start [] start
  | fetched {history : List Moment} {machine : Machine} (path : Path start history machine)
      (running : machine.fault = none) : Path start history machine.fetch.1
  | executed {history : List Moment} {machine : Machine} (path : Path start history machine)
      (word : Word) :
      Path start (history ++ [.executed machine word]) (machine.execute (decode word))
  | loaded {history : List Moment} {machine loaded : Machine} {program : List UInt8}
      (path : Path start history machine) (fits : machine.load program = .ok loaded) :
      Path start history loaded
  | ticked {history : List Moment} {machine : Machine} (path : Path start history machine) :
      Path start (history ++ [.ticked]) machine.tickTimers
  | pressed {history : List Moment} {machine : Machine} (path : Path start history machine)
      (keypad : Keypad) : Path start history (machine.setKeys keypad)
  | reset {history : List Moment} {machine : Machine} (path : Path start history machine) :
      Path start (history ++ [.reset]) machine.reset

namespace Path
variable {start machine : Machine} {history : List Moment}

theorem step (path : Path start history machine) :
    Path start (history ++ machine.stepMoments) machine.step := by
  unfold stepMoments Machine.step
  split
  · simpa using path
  · rename_i running
    have fault : machine.fault = none := by simpa [isHalted] using running
    exact (path.fetched fault).executed machine.fetch.2

theorem run (path : Path start history machine) (count : Nat) :
    Path start (history ++ machine.runMoments count) (machine.run count) := by
  induction count generalizing history machine with
  | zero => simpa [runMoments] using path
  | succ count ih =>
      rw [runMoments, run_succ, ← List.append_assoc]
      exact ih path.step

theorem runFrame (path : Path start history machine) (keypad : Keypad) (count : Nat) :
    Path start (history ++ machine.frameMoments keypad count) (machine.runFrame keypad count) := by
  have afterKeys := (path.ticked.pressed keypad).run count
  rwa [List.append_assoc] at afterKeys

theorem runFrames (path : Path start history machine) (keypads : List Keypad) (count : Nat) :
    Path start (history ++ machine.framesMoments keypads count)
      (machine.runFrames keypads count).1 := by
  induction keypads generalizing history machine with
  | nil => simpa [framesMoments, Machine.runFrames] using path
  | cons keypad rest ih =>
      rw [framesMoments, ← List.append_assoc]
      exact ih (path.runFrame keypad count)

theorem perform (path : Path start history machine) (action : Action) :
    Path start (history ++ machine.moments action) (machine.perform action) := by
  cases action with
  | load program =>
      rw [moments, List.append_nil, Machine.perform]
      split
      · rename_i fits
        exact path.loaded fits
      · exact path
  | execute word => exact path.executed word
  | step => exact path.step
  | run count => exact path.run count
  | runFrame keypad count => exact path.runFrame keypad count
  | runFrames keypads count => exact path.runFrames keypads count
  | tickTimers => exact path.ticked
  | setKey selection held =>
      rw [moments, List.append_nil]
      exact path.pressed (machine.keypad.setSelected selection held)
  | setKeys keypad =>
      rw [moments, List.append_nil]
      exact path.pressed keypad
  | reset => exact path.reset

theorem performAll (path : Path start history machine) (actions : List Action) :
    Path start (history ++ machine.history actions) (machine.performAll actions) := by
  induction actions generalizing history machine with
  | nil => simpa [Machine.history, Machine.performAll] using path
  | cons action rest ih =>
      rw [Machine.history, ← List.append_assoc]
      exact ih (path.perform action)

private theorem split_concat {items before after : List Moment} {last found : Moment}
    (split : items ++ [last] = before ++ found :: after) :
    (items = before ∧ last = found) ∨ ∃ rest, items = before ++ found :: rest := by
  rcases List.eq_nil_or_concat after with rfl | ⟨rest, moment, rfl⟩
  · obtain ⟨same, ends⟩ := List.append_inj' split rfl
    exact .inl ⟨same, List.singleton_inj.mp ends⟩
  · rw [List.concat_eq_append, ← List.cons_append, ← List.append_assoc] at split
    exact .inr ⟨rest, (List.append_inj' split rfl).1⟩

theorem before_executed (path : Path start history machine) {before after : List Moment}
    {found : Machine} {word : Word} (split : history = before ++ .executed found word :: after) :
    Path start before found := by
  induction path generalizing after with
  | start => simp at split
  | fetched _ _ ih | loaded _ _ ih | pressed _ _ ih => exact ih split
  | executed path last ih =>
      rcases split_concat split with ⟨rfl, same⟩ | ⟨rest, inside⟩
      · cases same
        exact path
      · exact ih inside
  | ticked _ ih | reset _ ih =>
      rcases split_concat split with ⟨_, same⟩ | ⟨rest, inside⟩
      · cases same
      · exact ih inside

end Path

theorem path_history (start : Machine) (actions : List Action) :
    Path start (start.history actions) (start.performAll actions) :=
  Path.start.performAll actions

def Reachable (machine : Machine) : Prop :=
  ∃ random actions, machine = (powerOn random).performAll actions

theorem Reachable.path {machine : Machine} (reachable : machine.Reachable) :
    ∃ random history, Path (powerOn random) history machine := by
  obtain ⟨random, actions, rfl⟩ := reachable
  exact ⟨random, _, path_history _ actions⟩

theorem Reachable.perform {machine : Machine} (reachable : machine.Reachable) (action : Action) :
    (machine.perform action).Reachable := by
  obtain ⟨random, actions, rfl⟩ := reachable
  exact ⟨random, actions ++ [action], by simp [performAll]⟩

theorem Reachable.run {machine : Machine} (reachable : machine.Reachable) (count : Nat) :
    (machine.run count).Reachable :=
  reachable.perform (.run count)

end Machine
end Chip8
