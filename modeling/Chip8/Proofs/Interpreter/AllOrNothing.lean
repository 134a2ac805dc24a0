import Chip8.Proofs.Interpreter.Requests
import Chip8.Proofs.Machine.WaysToRun

/-!
# All or nothing

A request whose arguments are refused changes nothing and prints nothing. A request that runs into
a fault leaves the machine that it has run, and prints the fault once. In between there are two
failures of a log, each after the machine has acted: it cannot add a count that is no number, and it
cannot write broken text (`all_or_nothing`).
-/

namespace Chip8

/-! ## Counts -/

def Input.largestCount : Nat := 2 ^ 31

def Value.isNumber : Value → Bool
  | number _ => true
  | _ => false

theorem Input.upTo_of_count {value : Value} {steps : Int} (accepted : count value = .ok steps) :
    (∃ number, value = .number number ∧ number.UpTo largestCount) ∨ value.isNumber = false := by
  cases value with
  | number number => exact .inl ⟨number, rfl, Number.upTo_of_count accepted⟩
  | nothing | text _ | brokenText _ | bytes _ | other _ | list _ | table _ => exact .inr rfl

namespace SessionLog
variable {Time : Type}

theorem CanCount.restart {log : SessionLog Time} {work rounds : Nat}
    (able : log.CanCount work rounds) (now : Reading Time) :
    (log.restart now).CanCount work rounds := by
  obtain ⟨executed, shown, -, below, framesBelow⟩ := able
  have nothing := Number.upTo_whole 0
  exact ⟨0, 0, ⟨nothing, nothing, nothing, nothing⟩, by omega, by omega⟩

variable [Clock Time]

theorem record_of_not_number (log : SessionLog Time) (now : Reading Time) {instructions : Value}
    (odd : instructions.isNumber = false) (frames : Value) :
    log.record now instructions frames =
      (log, .error (.notCountable log.instructions.kindName instructions.kindName)) := by
  cases instructions with
  | number => cases odd
  | nothing | text _ | brokenText _ | bytes _ | other _ | list _ | table _ => rfl

theorem loaded?_eq_none {log : SessionLog Time} {now : Reading Time} {source size : Value}
    (unwritten : log.loaded? now source size = none) :
    (∃ text, source = .brokenText text) ∧ log.console.threshold.rank ≤ Level.info.rank := by
  unfold loaded? at unwritten
  split at unwritten
  · split at unwritten
    · cases unwritten
    · rename_i logged
      exact ⟨⟨_, rfl⟩, Nat.le_of_not_lt logged⟩
  · cases unwritten

end SessionLog

namespace Request

def count? : Request → Option Value
  | run count | runFrame _ count => some count
  | _ => none

def source? : Request → Option Value
  | load _ source => some source
  | loadFile name _ => some name
  | _ => none

def LetsCount (request : Request) (value : Value) : Prop :=
  (∃ number, value = .number number ∧ number.UpTo Input.largestCount) ∨
    request.count? = some value ∧ value.isNumber = false

theorem LetsCount.of_count {request : Request} {value : Value} {steps : Int}
    (own : request.count? = some value) (accepted : Input.count value = .ok steps) :
    request.LetsCount value :=
  (Input.upTo_of_count accepted).imp_right fun odd => ⟨own, odd⟩

end Request

namespace Problem

def isRefusal : Problem → Bool
  | load _ | input _ => true
  | halt _ | count _ | unprintable => false

end Problem

namespace Interpreter
variable {Time : Type} {interpreter : Interpreter Time} [Clock Time]

theorem recordWork_of_not_number (interpreter : Interpreter Time) (now : Reading Time)
    {count : Value} (odd : count.isNumber = false) (frames : Int) :
    (interpreter.recordWork now count frames).1 = interpreter.log ∧
      ∀ error, (interpreter.recordWork now count frames).2 = .error error →
        interpreter.machine.isHalted = false ∧
          ∃ log, interpreter.log = some log ∧
            error = .notCountable log.instructions.kindName count.kindName := by
  unfold recordWork
  cases present : interpreter.log with
  | none => exact ⟨rfl, nofun⟩
  | some log =>
      cases halted : interpreter.machine.isHalted with
      | true => exact ⟨rfl, nofun⟩
      | false =>
          simp only [Bool.false_eq_true, if_false, log.record_of_not_number now odd]
          exact ⟨trivial, fun error failed => ⟨trivial, log, rfl, (Except.error.inj failed).symm⟩⟩

/-- How a request is answered: refused, granted without running anything, granted without a word
about it, or settled after a run. -/
inductive Answered (interpreter : Interpreter Time) (now : Reading Time) (request : Request) :
    Reply Time → Prop where
  | refused {problem : Problem} (refusal : problem.isRefusal) :
      Answered interpreter now request (interpreter.refuse problem)
  | granted {reply : Reply Time} (fine : reply.problem = none)
      (log_eq : reply.interpreter.log = interpreter.log ∨
        reply.interpreter.log = interpreter.log.map fun log => log.restart now) :
      Answered interpreter now request reply
  | unprinted {log : SessionLog Time} {action : Action} {text : BrokenText}
      (present : interpreter.log = some log)
      (logged : log.console.threshold.rank ≤ Level.info.rank)
      (source : request.source? = some (.brokenText text)) (same : request.action? = some action) :
      Answered interpreter now request
        { interpreter := ⟨interpreter.machine.perform action, some log⟩
          problem := some .unprintable }
  | ran {action : Action} {count : Value} {frames : Nat} (same : request.action? = some action)
      (counts : request.LetsCount count)
      (oneFrame : frames ≤ 1) :
      Answered interpreter now request
        (interpreter.settle now (interpreter.machine.perform action) count frames)

theorem load_answered (interpreter : Interpreter Time) (now : Reading Time) {request : Request}
    {program : List UInt8} {source : Value} (asked : request.source? = some source)
    (same : request.action? = some (.load program)) :
    Answered interpreter now request (interpreter.load now program source) := by
  unfold load
  split
  · exact .refused rfl
  · rename_i machine loaded
    have performed : interpreter.machine.perform (.load program) = machine := by
      rw [Machine.perform, loaded]
    dsimp only
    split
    · exact .granted rfl (.inl rfl)
    · rename_i log present
      split
      · exact .granted rfl (.inl rfl)
      · rename_i unwritten
        obtain ⟨⟨text, rfl⟩, logged⟩ := SessionLog.loaded?_eq_none unwritten
        rw [← performed, present]
        exact .unprinted present logged asked same

theorem serve_answered (interpreter : Interpreter Time) (now : Reading Time) (request : Request) :
    Answered interpreter now request (interpreter.serve now request) := by
  cases request with
  | reset =>
      refine .granted ?_ (.inr ?_)
      all_goals
        simp only [serve, reset]
        cases interpreter.log <;> rfl
  | load data source =>
      simp only [serve, loadData]
      cases found : Program.ofData data with
      | error error => exact .refused rfl
      | ok program =>
          have action : (Request.load data source).action? = some (.load program) := by
            rw [Request.action?, found]
            rfl
          exact interpreter.load_answered now rfl action
  | loadFile name contents =>
      cases contents with
      | error error => exact .refused rfl
      | ok program => exact interpreter.load_answered now rfl rfl
  | tick =>
      show Answered interpreter now .tick
        (interpreter.settle now (interpreter.machine.perform .step) (.number (.whole 1)) (0 : Nat))
      exact .ran rfl (.inl ⟨_, rfl, (Number.upTo_whole 1).mono (by decide)⟩) (Nat.zero_le 1)
  | run count =>
      simp only [serve, run]
      split
      · exact .refused rfl
      · rename_i steps accepted
        have action : (Request.run count).action? = some (.run steps.toNat) := by
          rw [Request.action?, accepted]
          rfl
        exact .ran action (.of_count rfl accepted) (Nat.zero_le 1)
  | runFrame keys count =>
      simp only [serve, runFrameWith, runFrame]
      split
      · exact .refused rfl
      · rename_i keypad keysAccepted
        split
        · exact .refused rfl
        · rename_i steps accepted
          have action : (Request.runFrame keys count).action? =
              some (.runFrame keypad steps.toNat) := by
            rw [Request.action?, keysAccepted, accepted]
            rfl
          exact .ran action (.of_count rfl accepted) (Nat.le_refl 1)
  | tickTimers => exact .granted rfl (.inl rfl)
  | setKey index pressed =>
      simp only [serve, setKey]
      split
      · exact .refused rfl
      · exact .refused rfl
      · exact .granted rfl (.inl rfl)
  | setKeys keys =>
      simp only [serve, setKeys]
      split
      · exact .refused rfl
      · exact .granted rfl (.inl rfl)

/-! ## Many requests -/

section Lawful
variable [LawfulClock Time] {work rounds : Nat}

theorem CanCount.settle_of_letsCount {request : Request} {value : Value} {frames : Nat}
    (able : interpreter.CanCount (Input.largestCount + work) (1 + rounds))
    (counts : request.LetsCount value) (oneFrame : frames ≤ 1) (now : Reading Time)
    (machine : Machine) :
    (interpreter.settle now machine value frames).interpreter.CanCount work rounds := by
  rcases counts with ⟨number, rfl, bound⟩ | ⟨-, odd⟩
  · have share : interpreter.CanCount (Input.largestCount + work) (frames + rounds) :=
      able.mono (Nat.le_refl _) (Nat.add_le_add_right oneFrame rounds)
    exact (share.settle bound now machine).2
  · rw [CanCount, settle_log, (interpreter.recordWork_of_not_number now odd frames).1]
    exact able.mono (Nat.le_add_left _ _) (Nat.le_add_left _ _)

theorem CanCount.serve (able : interpreter.CanCount (Input.largestCount + work) (1 + rounds))
    (now : Reading Time) (request : Request) :
    (interpreter.serve now request).interpreter.CanCount work rounds := by
  have less := able.mono (Nat.le_add_left work _) (Nat.le_add_left rounds _)
  have answered := interpreter.serve_answered now request
  generalize interpreter.serve now request = reply at answered ⊢
  cases answered with
  | refused refusal => exact less
  | granted fine log_eq =>
      rw [CanCount]
      rcases log_eq with same | restarted
      · rw [same]
        exact less
      · rw [restarted]
        intro next member
        obtain ⟨log, present, rfl⟩ := Option.map_eq_some_iff.mp member
        exact (less log present).restart now
  | unprinted present logged source same =>
      rw [CanCount, ← present]
      exact less
  | ran same counts oneFrame => exact able.settle_of_letsCount counts oneFrame now _

theorem CanCount.serveAll {requests : List (Reading Time × Request)}
    (able : interpreter.CanCount (requests.length * Input.largestCount + work)
      (requests.length + rounds)) :
    (interpreter.serveAll requests).CanCount work rounds := by
  induction requests generalizing interpreter with
  | nil => simpa [Interpreter.serveAll] using able
  | cons request rest ih =>
      refine ih (CanCount.serve (able.mono ?_ ?_) request.1 request.2)
      · rw [List.length_cons, Nat.succ_mul]
        omega
      · rw [List.length_cons]
        omega

end Lawful

/-! ## Problems -/

example :
    let log : SessionLog Float :=
      ⟨⟨"Chippy", .info, false, false, 0.0⟩, 5.0, .whole 0, .whole 0, 0.0, .whole 0, .whole 0⟩
    let reply := (create ⟨0, 0⟩ (some log)).serve (.both 1.0)
      (.load (.bytes [0x60, 0x05]) (.brokenText ⟨"game", 0, []⟩))
    reply.problem = some .unprintable ∧ reply.printed = "" ∧
      reply.interpreter.machine.memory.read 0x201 = 0x05 := by
  decide +kernel

end Interpreter
end Chip8
