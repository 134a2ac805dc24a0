import Chip8.Proofs.Input
import Chip8.Proofs.Interpreter.Requests
import Chip8.Proofs.Log.Counting

namespace Chip8

structure Work where
  executed : Nat
  /-- Instructions that a running machine was asked for, but was stopped before it came to them. -/
  skipped : Nat
  frames : Nat
deriving DecidableEq

namespace Work

instance : Zero Work := ⟨⟨0, 0, 0⟩⟩

instance : Add Work where
  add first second :=
    ⟨first.executed + second.executed, first.skipped + second.skipped,
      first.frames + second.frames⟩

@[simp] theorem executed_add (first second : Work) :
    (first + second).executed = first.executed + second.executed := rfl

@[simp] theorem skipped_add (first second : Work) :
    (first + second).skipped = first.skipped + second.skipped := rfl

end Work

namespace Machine

def workOfRun (machine : Machine) (asked frames : Nat) : Work :=
  let executed := (machine.runMoments asked).length
  { executed
    skipped := if machine.isHalted then 0 else asked - executed
    frames := if machine.isHalted then 0 else frames }

def workOf (machine : Machine) : Action → Work
  | .step => machine.workOfRun 1 0
  | .run count => machine.workOfRun count 0
  | .runFrame keypad count => (machine.tickTimers.setKeys keypad).workOfRun count 1
  | _ => 0

/-- The work since the last reset, after an action that finds so much done. -/
def workAfter (machine : Machine) (done : Work) : Action → Work
  | .reset => 0
  | action => done + machine.workOf action

def workSinceReset (machine : Machine) (done : Work) : List Action → Work
  | [] => done
  | action :: rest => (machine.perform action).workSinceReset (machine.workAfter done action) rest

theorem length_runMoments_le (machine : Machine) (count : Nat) :
    (machine.runMoments count).length ≤ count := by
  induction count generalizing machine with
  | zero => exact Nat.le_refl 0
  | succ count ih =>
      have first : machine.stepMoments.length ≤ 1 := by
        unfold stepMoments
        split <;> simp
      have rest := ih machine.step
      rw [runMoments, List.length_append]
      omega

theorem length_runMoments_eq_iff (machine : Machine) (count : Nat) :
    (machine.runMoments count).length = count ↔
      ∀ steps < count, (machine.run steps).isHalted = false := by
  induction count generalizing machine with
  | zero => simp [runMoments]
  | succ count ih =>
      have rest := machine.step.length_runMoments_le count
      cases halted : machine.isHalted with
      | true =>
          have stopped : ¬ ∀ steps < count + 1, (machine.run steps).isHalted = false := by
            intro runs
            have running : machine.isHalted = false := runs 0 (Nat.succ_pos count)
            rw [halted] at running
            cases running
          rw [runMoments, stepMoments, if_pos halted, List.nil_append, iff_false_right stopped]
          omega
      | false =>
          -- No steps lead to the machine itself, more of them to the run of its successor.
          have split : (∀ steps < count + 1, (machine.run steps).isHalted = false) ↔
              ∀ steps < count, (machine.step.run steps).isHalted = false := by
            rw [Nat.forall_lt_succ_left]
            exact and_iff_right halted
          rw [split, ← ih, runMoments, stepMoments, halted, List.length_append]
          simp only [Bool.false_eq_true, if_false, List.length_singleton]
          omega

theorem runMoments_of_isHalted {machine : Machine} (halted : machine.isHalted) (count : Nat) :
    machine.runMoments count = [] := by
  induction count with
  | zero => rfl
  | succ count ih => rw [runMoments, step_of_isHalted halted, ih, stepMoments, if_pos halted]; rfl

theorem workOfRun_of_isHalted {machine : Machine} (halted : machine.isHalted)
    (asked frames : Nat) : machine.workOfRun asked frames = 0 := by
  simp only [workOfRun, runMoments_of_isHalted halted, halted]
  rfl

theorem workOfRun_of_running {machine : Machine} (running : machine.isHalted = false)
    (asked frames : Nat) :
    let work := machine.workOfRun asked frames
    work.executed + work.skipped = asked ∧ work.frames = frames := by
  have bound := machine.length_runMoments_le asked
  simp only [workOfRun, running]
  exact ⟨Nat.add_sub_cancel' bound, rfl⟩

theorem skipped_eq_zero_iff (machine : Machine) (asked frames : Nat) :
    (machine.workOfRun asked frames).skipped = 0 ↔
      machine.isHalted ∨ ∀ steps < asked, (machine.run steps).isHalted = false := by
  have bound := machine.length_runMoments_le asked
  rw [← length_runMoments_eq_iff]
  cases halted : machine.isHalted with
  | true => simp [workOfRun, halted]
  | false =>
      simp only [workOfRun, halted, Bool.false_eq_true, if_false, false_or]
      omega

end Machine

/-! ## Logs -/

structure SessionLog.HasCounted {Time : Type} (log : SessionLog Time) (done : Work) : Prop where
  instructions : log.instructions = .whole (done.executed + done.skipped)
  frames : log.frames = .whole done.frames

namespace SessionLog
variable {Time : Type} {log : SessionLog Time} {done : Work} [Clock Time]

theorem report_counts (log : SessionLog Time) (now : Reading Time) (elapsed : Time) :
    (log.report now elapsed).1.instructions = log.instructions ∧
      (log.report now elapsed).1.frames = log.frames := by
  unfold report
  split <;> exact ⟨rfl, rfl⟩

theorem record_counts {log : SessionLog Time} {executed shown : Int}
    (instructions : log.instructions = .whole executed) (frames : log.frames = .whole shown)
    (now : Reading Time) (work rounds : Int) :
    let next := (log.record now (.number (.whole work)) (.number (.whole rounds))).1
    next.instructions = .whole (executed + work) ∧ next.frames = .whole (shown + rounds) := by
  simp only [record, count_whole instructions frames]
  split
  · exact ⟨rfl, rfl⟩
  · exact report_counts _ now _

theorem HasCounted.record (counted : log.HasCounted done) (now : Reading Time) {work : Work}
    {asked : Nat} (all : work.executed + work.skipped = asked) :
    (log.record now (.number (.whole asked)) (.number (.whole work.frames))).1.HasCounted
      (done + work) := by
  obtain ⟨instructions, frames⟩ :=
    record_counts counted.instructions counted.frames now asked work.frames
  have sum : (done.executed + done.skipped + asked : Int) =
      (done + work).executed + (done + work).skipped := by
    rw [Work.executed_add, Work.skipped_add]
    omega
  exact ⟨instructions.trans (congrArg Number.whole sum), frames⟩

end SessionLog

/-! ## Calls -/

def Request.HasWholeCount : Request → Prop
  | .run count | .runFrame _ count => ∃ amount : Nat, count = .number (.whole amount)
  | _ => True

namespace Interpreter
variable {Time : Type} {interpreter : Interpreter Time} {done : Work}

def HasCounted (interpreter : Interpreter Time) (done : Work) : Prop :=
  ∃ log, interpreter.log = some log ∧ log.HasCounted done

variable [Clock Time]

theorem HasCounted.settle (counted : interpreter.HasCounted done) {start : Machine}
    (same : start.isHalted = interpreter.machine.isHalted) (now : Reading Time) (machine : Machine)
    (asked frames : Nat) :
    (interpreter.settle now machine (.number (.whole asked)) frames).interpreter.HasCounted
      (done + start.workOfRun asked frames) := by
  obtain ⟨log, present, logCounted⟩ := counted
  unfold HasCounted
  rw [settle_log, recordWork, present]
  -- The log looks at the machine before the call, of which the run started: before a frame only
  -- timers and keys change.
  cases halted : interpreter.machine.isHalted with
  | true =>
      rw [Machine.workOfRun_of_isHalted (same.trans halted)]
      exact ⟨log, rfl, logCounted⟩
  | false =>
      obtain ⟨all, shown⟩ := Machine.workOfRun_of_running (same.trans halted) asked frames
      have recorded := logCounted.record now all
      rw [shown] at recorded
      exact ⟨_, rfl, recorded⟩

theorem HasCounted.load (counted : interpreter.HasCounted done) (now : Reading Time)
    (program : List UInt8) (source : Value) :
    (interpreter.load now program source).interpreter.HasCounted done := by
  rw [HasCounted, load_log]
  exact counted

theorem HasCounted.serve (counted : interpreter.HasCounted done) (now : Reading Time)
    {request : Request} (whole : request.HasWholeCount) :
    (interpreter.serve now request).interpreter.HasCounted
      (request.action?.elim done (interpreter.machine.workAfter done)) := by
  cases request with
  | reset =>
      obtain ⟨log, present, -⟩ := counted
      simp only [Interpreter.serve, reset, present]
      exact ⟨log.restart now, rfl, rfl, rfl⟩
  | load data source =>
      simp only [Interpreter.serve, loadData, Request.action?]
      cases Program.ofData data with
      | error error => exact counted
      | ok program => exact counted.load now program source
  | loadFile name contents =>
      cases contents with
      | error error => exact counted
      | ok program => exact counted.load now program name
  | tick => exact counted.settle rfl now _ 1 0
  | run count =>
      obtain ⟨amount, same⟩ := whole
      simp only [Interpreter.serve, run, Request.action?]
      cases accepted : Input.count count with
      | error error => exact counted
      | ok steps =>
          rw [same] at accepted ⊢
          rw [Input.eq_of_count_whole accepted]
          exact counted.settle rfl now _ amount 0
  | runFrame keys count =>
      obtain ⟨amount, same⟩ := whole
      simp only [Interpreter.serve, runFrameWith, runFrame, Request.action?]
      cases Input.frameKeypad keys with
      | error error => exact counted
      | ok keypad =>
          cases accepted : Input.count count with
          | error error => exact counted
          | ok steps =>
              rw [same] at accepted ⊢
              rw [Input.eq_of_count_whole accepted]
              have same : (interpreter.machine.tickTimers.setKeys keypad).isHalted =
                  interpreter.machine.isHalted := rfl
              exact counted.settle same now _ amount 1
  | tickTimers => exact counted
  | setKey index pressed =>
      simp only [Interpreter.serve, setKey, Request.action?]
      cases Input.held pressed with
      | error error => exact counted
      | ok held => cases Input.keySelection index <;> exact counted
  | setKeys keys =>
      simp only [Interpreter.serve, setKeys, Request.action?]
      cases Input.keypad keys <;> exact counted

theorem HasCounted.serveAll (counted : interpreter.HasCounted done)
    {requests : List (Reading Time × Request)}
    (whole : ∀ request ∈ requests, request.2.HasWholeCount) :
    (interpreter.serveAll requests).HasCounted (interpreter.machine.workSinceReset done
      (requests.filterMap fun request => request.2.action?)) := by
  induction requests generalizing interpreter done with
  | nil => exact counted
  | cons request rest ih =>
      have first := counted.serve request.1 (whole request List.mem_cons_self)
      have later := ih first fun other member => whole other (List.mem_cons_of_mem _ member)
      rw [serve_machine] at later
      rw [List.filterMap_cons]
      -- A refused request performs no action, and has not been counted.
      cases action : request.2.action? with
      | none => rwa [action] at later
      | some action => rwa [action] at later

/-! ## The main statement -/

/-- After any requests, some of which may be refused or run into a fault, the log has counted the
frames since the last reset that the machine was running for, and all instructions that it was asked
for while it was running. These are the instructions that it has executed since the last reset if
and only if none were skipped, and a call skips some exactly if it finds the machine running and
stops it before the last instruction that it asks for. -/
theorem session_counts (interpreter : Interpreter Time) {log : SessionLog Time}
    (present : interpreter.log = some log) (fresh : log.HasCounted 0)
    (requests : List (Reading Time × Request))
    (whole : ∀ request ∈ requests, request.2.HasWholeCount) :
    let actions := requests.filterMap fun request => request.2.action?
    let work := interpreter.machine.workSinceReset 0 actions
    (interpreter.serveAll requests).machine = interpreter.machine.performAll actions ∧
      (∃ last, (interpreter.serveAll requests).log = some last ∧
        last.frames = .whole work.frames ∧
        last.instructions = .whole (work.executed + work.skipped) ∧
        (last.instructions = .whole work.executed ↔ work.skipped = 0)) ∧
      ∀ (machine : Machine) (asked frames : Nat),
        (machine.workOfRun asked frames).skipped = 0 ↔
          machine.isHalted ∨ ∀ steps < asked, (machine.run steps).isHalted = false := by
  intro actions work
  have started : interpreter.HasCounted 0 := ⟨log, present, fresh⟩
  obtain ⟨last, found, counted⟩ := started.serveAll whole
  have instructions : last.instructions = .whole (work.executed + work.skipped) :=
    counted.instructions
  refine ⟨interpreter.serveAll_machine requests,
    ⟨last, found, counted.frames, instructions, ?_⟩, Machine.skipped_eq_zero_iff⟩
  rw [instructions, Number.whole.injEq]
  omega

theorem session_counts_of_fault_in_run :
    let log : SessionLog Float :=
      ⟨⟨"Chippy", .info, false, true, 0.0⟩, 5.0, .whole 0, .whole 0, 0.0, .whole 0, .whole 0⟩
    let interpreter := create ⟨0, 0⟩ (some log)
    let requests : List (Reading Float × Request) :=
      [(⟨1.0, 0.1⟩, .load (.bytes [0x00, 0xEE]) (.text "program")),
        (⟨2.0, 1.1⟩, .run (.number (.whole 5))), (⟨3.0, 2.1⟩, .tick)]
    interpreter.machine.workSinceReset 0 (requests.filterMap fun request => request.2.action?) =
        ⟨1, 4, 0⟩ ∧
      ∃ last, (interpreter.serveAll requests).log = some last ∧ last.frames = .whole 0 ∧
        last.instructions = .whole 5 := by
  intro log interpreter requests
  have work : interpreter.machine.workSinceReset 0
      (requests.filterMap fun request => request.2.action?) = ⟨1, 4, 0⟩ := by decide +kernel
  have whole : ∀ request ∈ requests, request.2.HasWholeCount := by
    simp only [requests, List.forall_mem_cons, Request.HasWholeCount]
    exact ⟨trivial, ⟨5, rfl⟩, trivial, by simp⟩
  have counts := session_counts interpreter rfl ⟨rfl, rfl⟩ requests whole
  obtain ⟨last, found, frames, instructions, -⟩ := counts.2.1
  rw [work] at frames instructions
  exact ⟨work, last, found, frames, instructions⟩

end Interpreter
end Chip8
