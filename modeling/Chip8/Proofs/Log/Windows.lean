import Chip8.Log.ExactClock
import Chip8.Proofs.Log.Counting

/-!
# Windows of throughput

With exact times, recording work makes a report exactly if the window is positive and long enough,
and a report closes the window, whether it is written or not (`record_of_due`). So reports and
resets divide the time into windows. What the reports give, each rate over its window, and what the
open window holds is all the work since the last reset (`windows_partition_work`).
-/

namespace Chip8
namespace SessionLog

/-! ## Reports -/

structure Report where
  time : Rat
  elapsed : Rat
  instructionRate : Rat
  frameRate : Rat
deriving DecidableEq

namespace Report

def Apart (interval : Rat) (first second : Report) : Prop := first.time + interval ≤ second.time

def text (report : Report) (instructions : Number) : String :=
  instructions.grouped ++ " instructions | CPU: " ++ Clock.fixed 0 report.instructionRate ++
    " Hz | FPS: " ++ Clock.fixed 1 report.frameRate

def work (rate : Report → Rat) (report : Report) : Rat := rate report * report.elapsed

end Report

def reportOn? (log : SessionLog Rat) (now : Reading Rat) (instructions frames : Nat) :
    Option Report := do
  let (counted, _) := log.count (.number (.whole instructions)) (.number (.whole frames))
  let elapsed ← counted.due? now
  let window ← counted.window? elapsed
  return {
    time := now.steady
    elapsed
    instructionRate := ← Clock.rate? window.instructions elapsed
    frameRate := ← Clock.rate? window.frames elapsed }

theorem due?_eq (log : SessionLog Rat) (now : Reading Rat) :
    log.due? now = if 0 < now.steady - log.windowStart ∧ log.interval ≤ now.steady - log.windowStart
      then some (now.steady - log.windowStart) else none := by
  unfold due?
  dsimp only
  by_cases due : 0 < now.steady - log.windowStart ∧ log.interval ≤ now.steady - log.windowStart
  · rw [if_pos due, if_neg]
    exact not_or.mpr ⟨not_le.mpr due.1, not_lt.mpr due.2⟩
  · rw [if_neg due, if_pos]
    rwa [not_and_or, not_lt, not_le] at due

section
variable {log : SessionLog Rat} {executed shown before shownBefore : Int} {now : Reading Rat}

theorem record_of_early (instructions : log.instructions = .whole executed)
    (frames : log.frames = .whole shown)
    (early : ¬(0 < now.steady - log.windowStart ∧ log.interval ≤ now.steady - log.windowStart))
    (work rounds : Nat) :
    let counted := { log with
      instructions := .whole (executed + work), frames := .whole (shown + rounds) }
    log.reportOn? now work rounds = none ∧
      log.record now (.number (.whole work)) (.number (.whole rounds)) = (counted, .ok "") := by
  intro counted
  have count : log.count (.number (.whole work)) (.number (.whole rounds)) = (counted, none) :=
    count_whole instructions frames work rounds
  have due : counted.due? now = none := (due?_eq counted now).trans (if_neg early)
  simp only [reportOn?, record, count, due]
  exact ⟨rfl, trivial⟩

theorem record_of_due (instructions : log.instructions = .whole executed)
    (frames : log.frames = .whole shown)
    (windowInstructions : log.windowInstructions = .whole before)
    (windowFrames : log.windowFrames = .whole shownBefore)
    (due : 0 < now.steady - log.windowStart ∧ log.interval ≤ now.steady - log.windowStart)
    (work rounds : Nat) :
    let counted := { log with
      instructions := .whole (executed + work), frames := .whole (shown + rounds) }
    ∃ report : Report,
      log.reportOn? now work rounds = some report ∧
      log.record now (.number (.whole work)) (.number (.whole rounds)) =
        (counted.closeWindow now,
          .ok (log.write now .debug (report.text counted.instructions))) ∧
      report.time = now.steady ∧ report.elapsed = now.steady - log.windowStart ∧
      report.instructionRate = (executed + work - before : Int) / report.elapsed ∧
      report.frameRate = (shown + rounds - shownBefore : Int) / report.elapsed := by
  intro counted
  have count : log.count (.number (.whole work)) (.number (.whole rounds)) = (counted, none) :=
    count_whole instructions frames work rounds
  have due : counted.due? now = some (now.steady - log.windowStart) :=
    (due?_eq counted now).trans (if_pos due)
  have window : counted.window? (now.steady - log.windowStart) =
      some ⟨.whole (executed + work - before), .whole (shown + rounds - shownBefore),
        now.steady - log.windowStart⟩ := by
    simp only [window?, counted, windowInstructions, windowFrames, Number.sub?_whole]
    rfl
  refine ⟨⟨now.steady, now.steady - log.windowStart,
    (executed + work - before : Int) / (now.steady - log.windowStart),
    (shown + rounds - shownBefore : Int) / (now.steady - log.windowStart)⟩,
    ?_, ?_, rfl, rfl, rfl, rfl⟩
  · simp only [reportOn?, count, due, Option.bind_eq_bind, Option.bind_some, window]
    rfl
  · simp only [record, count, due, report, Option.bind_eq_bind, window]
    rfl

end

/-! ## Calls -/

inductive Call where
  | record (now : Reading Rat) (instructions frames : Nat)
  | reset (now : Reading Rat)

namespace Call

def isRecord : Call → Bool
  | record .. => true
  | reset _ => false

def resetTime? : Call → Option Rat
  | record .. => none
  | reset now => some now.steady

def instructions : Call → Nat
  | record _ instructions _ => instructions
  | reset _ => 0

def frames : Call → Nat
  | record _ _ frames => frames
  | reset _ => 0

end Call

def recorded (amount : Call → Nat) (calls : List Call) : Nat :=
  ((calls.rtakeWhile Call.isRecord).map amount).sum

def lastStart (opened : Rat) (calls : List Call) : Rat :=
  (calls.filterMap Call.resetTime?).getLastD opened

section
variable (amount : Call → Nat) (opened : Rat) (calls : List Call) (now : Reading Rat)
  (instructions frames : Nat)

@[simp] theorem recorded_record :
    recorded amount (calls ++ [.record now instructions frames]) =
      recorded amount calls + amount (.record now instructions frames) := by
  rw [recorded, List.rtakeWhile_concat_pos _ _ _ rfl, List.map_append, List.sum_append,
    List.map_singleton, List.sum_singleton]
  rfl

@[simp] theorem recorded_reset : recorded amount (calls ++ [.reset now]) = 0 := by
  rw [recorded, List.rtakeWhile_concat_neg _ _ _ Bool.false_ne_true]
  rfl

@[simp] theorem lastStart_record :
    lastStart opened (calls ++ [.record now instructions frames]) = lastStart opened calls := by
  simp [lastStart, List.filterMap_append, Call.resetTime?]

@[simp] theorem lastStart_reset : lastStart opened (calls ++ [.reset now]) = now.steady := by
  simp [lastStart, List.filterMap_append, Call.resetTime?]

end

structure History where
  log : SessionLog Rat
  reports : List Report

namespace History

def add (history : History) : Call → History
  | .record now instructions frames =>
      { log := (history.log.record now (.number (.whole instructions))
          (.number (.whole frames))).1
        reports := history.reports ++ (history.log.reportOn? now instructions frames).toList }
  | .reset now => { log := (history.log.reset now).1, reports := [] }

def windowStart (history : History) (opened : Rat) (calls : List Call) : Rat :=
  (history.reports.map Report.time).getLastD (lastStart opened calls)

end History

def historyOf (log : SessionLog Rat) (calls : List Call) : History :=
  calls.foldl History.add ⟨log, []⟩

theorem historyOf_concat (log : SessionLog Rat) (calls : List Call) (call : Call) :
    historyOf log (calls ++ [call]) = (historyOf log calls).add call := by
  rw [historyOf, List.foldl_append]
  rfl

/-! ## Windows -/

/-- A counter holds all that was recorded, and its value at the start of the window is the work in
the windows of the reports. -/
def IsSplit (reports : List Report) (rate : Report → Rat) (counter atStart : Number)
    (total : Nat) : Prop :=
  ∃ before ≤ total, counter = .whole total ∧ atStart = .whole before ∧
    (reports.map (Report.work rate)).sum = before

/-- What holds of a log after some calls, told by how it was opened and by the calls alone. -/
structure Accounts (opening : SessionLog Rat) (calls : List Call) (history : History) : Prop where
  console : history.log.console = opening.console
  interval : history.log.interval = opening.interval
  windowStart : history.log.windowStart = history.windowStart opening.windowStart calls
  instructions : IsSplit history.reports Report.instructionRate history.log.instructions
    history.log.windowInstructions (recorded Call.instructions calls)
  frames : IsSplit history.reports Report.frameRate history.log.frames history.log.windowFrames
    (recorded Call.frames calls)
  positive : ∀ report ∈ history.reports,
    0 < report.elapsed ∧ 0 ≤ report.instructionRate ∧ 0 ≤ report.frameRate
  apart : history.reports.IsChain (Report.Apart opening.interval)

section
variable {reports : List Report} {rate : Report → Rat} {counter atStart : Number} {total : Nat}

theorem isSplit_nil (rate : Report → Rat) : IsSplit [] rate (.whole 0) (.whole 0) 0 :=
  ⟨0, le_rfl, rfl, rfl, rfl⟩

theorem IsSplit.count (split : IsSplit reports rate counter atStart total) (more : Nat) :
    IsSplit reports rate (.whole (total + more)) atStart (total + more) := by
  obtain ⟨before, below, -, started, work⟩ := split
  exact ⟨before, Nat.le_add_right_of_le below, by simp, started, work⟩

theorem IsSplit.close (split : IsSplit reports rate counter atStart total) {report : Report}
    {before : Int} (started : atStart = .whole before) (positive : 0 < report.elapsed)
    (rated : rate report = (total - before : Int) / report.elapsed) :
    IsSplit (reports ++ [report]) rate counter counter total ∧ 0 ≤ rate report := by
  obtain ⟨earlier, below, counted, same, work⟩ := split
  cases started.symm.trans same
  constructor
  · refine ⟨total, le_rfl, counted, counted, ?_⟩
    rw [List.map_append, List.sum_append, work, List.map_singleton, List.sum_singleton,
      Report.work, rated, div_mul_cancel₀ _ positive.ne']
    push_cast
    ring
  · rw [rated]
    have grown : (0 : Int) ≤ total - earlier := by omega
    exact div_nonneg (Int.cast_nonneg grown) positive.le

theorem IsSplit.rest (split : IsSplit reports rate counter atStart total) :
    counter = .whole total ∧ ∃ rest : Nat, counter.sub? atStart = some (.whole rest) ∧
      (reports.map (Report.work rate)).sum + rest = total := by
  obtain ⟨before, below, rfl, rfl, work⟩ := split
  refine ⟨rfl, total - before, ?_, ?_⟩
  · rw [Number.sub?_whole, Nat.cast_sub below]
  · rw [work]
    exact_mod_cast Nat.add_sub_cancel' below

end

variable {opening : SessionLog Rat} {calls : List Call} {history : History}

theorem accounts_opened {options : LogOptions} {interval : Rat} {terminal : Bool}
    {opened : Reading Rat}
    (started : start? options interval terminal opened = .ok opening) :
    Accounts opening [] ⟨opening, []⟩ := by
  obtain ⟨console, -, made⟩ := of_bind_ok started
  cases made
  exact ⟨rfl, rfl, rfl, isSplit_nil _, isSplit_nil _, nofun, .nil⟩

theorem Accounts.reset (accounts : Accounts opening calls history) (now : Reading Rat) :
    Accounts opening (calls ++ [.reset now]) (history.add (.reset now)) where
  console := accounts.console
  interval := accounts.interval
  windowStart := by simp [History.add, History.windowStart, SessionLog.reset, restart]
  instructions := by
    rw [recorded_reset]
    exact isSplit_nil _
  frames := by
    rw [recorded_reset]
    exact isSplit_nil _
  positive := nofun
  apart := .nil

theorem Accounts.windowStart_eq (accounts : Accounts opening calls history) {last : Report}
    (member : last ∈ history.reports.getLast?) : history.log.windowStart = last.time := by
  rw [accounts.windowStart, History.windowStart, List.getLastD_eq_getLast?, List.getLast?_map,
    Option.mem_def.mp member]
  rfl

theorem Accounts.record (accounts : Accounts opening calls history) (now : Reading Rat)
    (work rounds : Nat) :
    Accounts opening (calls ++ [.record now work rounds])
      (history.add (.record now work rounds)) := by
  obtain ⟨before, -, executed, windowExecuted, -⟩ := accounts.instructions
  obtain ⟨shownBefore, -, shown, windowShown, -⟩ := accounts.frames
  have instructions := accounts.instructions.count work
  have frames := accounts.frames.count rounds
  by_cases due : 0 < now.steady - history.log.windowStart ∧
      history.log.interval ≤ now.steady - history.log.windowStart
  · obtain ⟨report, reported, closed, time, elapsed, rate, frameRate⟩ :=
      record_of_due executed shown windowExecuted windowShown due work rounds
    have positive : 0 < report.elapsed := elapsed ▸ due.1
    obtain ⟨instructions, rateNonneg⟩ := instructions.close windowExecuted positive rate
    obtain ⟨frames, frameRateNonneg⟩ := frames.close windowShown positive frameRate
    have apart (last : Report) (member : last ∈ history.reports.getLast?) :
        last.Apart opening.interval report := by
      have long := due.2
      rw [accounts.windowStart_eq member, accounts.interval] at long
      rw [Report.Apart, time]
      linarith
    rw [History.add, reported, closed, Option.toList_some]
    refine ⟨accounts.console, accounts.interval, ?_, ?_, ?_, ?_, ?_⟩
    · simp [History.windowStart, closeWindow, time]
    · rw [recorded_record]
      exact instructions
    · rw [recorded_record]
      exact frames
    · intro other member
      rcases List.mem_append.mp member with earlier | added
      · exact accounts.positive other earlier
      · obtain rfl := List.mem_singleton.mp added
        exact ⟨positive, rateNonneg, frameRateNonneg⟩
    · exact accounts.apart.append (.singleton report) (by simpa using apart)
  · obtain ⟨reported, counted⟩ := record_of_early executed shown due work rounds
    rw [History.add, reported, counted, Option.toList_none, List.append_nil]
    refine ⟨accounts.console, accounts.interval, ?_, ?_, ?_, accounts.positive, accounts.apart⟩
    · simpa [History.windowStart] using accounts.windowStart
    · rw [recorded_record]
      exact instructions
    · rw [recorded_record]
      exact frames

theorem accounts_historyOf {options : LogOptions} {interval : Rat} {terminal : Bool}
    {opened : Reading Rat}
    (started : start? options interval terminal opened = .ok opening) (calls : List Call) :
    Accounts opening calls (historyOf opening calls) := by
  -- From the last call backwards: a history grows at its end.
  induction calls using List.reverseRecOn with
  | nil => exact accounts_opened started
  | append_singleton calls call ih =>
      rw [historyOf_concat]
      cases call with
      | record now work rounds => exact ih.record now work rounds
      | reset now => exact ih.reset now

theorem threshold_of_started {options : LogOptions} {interval : Rat} {terminal : Bool}
    {opened : Reading Rat}
    (started : start? options interval terminal opened = .ok opening) :
    Level.ofSetting options.level = .ok opening.console.threshold := by
  obtain ⟨console, consoleStarted, made⟩ := of_bind_ok started
  obtain ⟨threshold, named, consoleMade⟩ := of_bind_ok consoleStarted
  cases consoleMade
  cases made
  exact named

theorem write_debug_ne_empty_iff (log : SessionLog Rat) (now : Reading Rat) (text : String) :
    log.write now .debug text ≠ "" ↔ log.console.threshold = .debug := by
  unfold write Console.log
  cases log.console.threshold <;> simp [Level.rank]

/-- After any calls, whatever the clock showed: recording work reports exactly if the time since the
start of the window is positive and as long as the interval. A report is written at debug level
only, but it closes the window at every level. No report is over no time or gives a negative rate,
two reports without a reset between them are at least the interval apart, and the work of their
windows and of the open one is all that was recorded since the last reset. -/
theorem windows_partition_work {options : LogOptions} {interval : Rat} {terminal : Bool}
    {opened : Reading Rat}
    {log : SessionLog Rat} (started : start? options interval terminal opened = .ok log)
    (calls : List Call) :
    let history := historyOf log calls
    let start := history.windowStart opened.steady calls
    let executed := recorded Call.instructions calls
    let shown := recorded Call.frames calls
    (∀ (now : Reading Rat) (work rounds : Nat),
      let counted := { history.log with
        instructions := .whole (executed + work), frames := .whole (shown + rounds) }
      let result := history.log.record now (.number (.whole work)) (.number (.whole rounds))
      if 0 < now.steady - start ∧ interval ≤ now.steady - start then
        ∃ report, history.log.reportOn? now work rounds = some report ∧
          report.time = now.steady ∧ report.elapsed = now.steady - start ∧
          result = (counted.closeWindow now,
            .ok (history.log.write now .debug (report.text counted.instructions)))
      else history.log.reportOn? now work rounds = none ∧ result = (counted, .ok "")) ∧
    (∀ (now : Reading Rat) (text : String),
      history.log.write now .debug text ≠ "" ↔ Level.ofSetting options.level = .ok .debug) ∧
    (∀ report ∈ history.reports,
      0 < report.elapsed ∧ 0 ≤ report.instructionRate ∧ 0 ≤ report.frameRate) ∧
    history.reports.IsChain (Report.Apart interval) ∧
    (history.log.instructions = .whole executed ∧
      ∃ rest : Nat,
        history.log.instructions.sub? history.log.windowInstructions = some (.whole rest) ∧
        (history.reports.map (Report.work Report.instructionRate)).sum + rest = executed) ∧
    (history.log.frames = .whole shown ∧
      ∃ rest : Nat, history.log.frames.sub? history.log.windowFrames = some (.whole rest) ∧
        (history.reports.map (Report.work Report.frameRate)).sum + rest = shown) := by
  intro history start executed shown
  have accounts : Accounts log calls history := accounts_historyOf started calls
  obtain ⟨intervalIs, openedIs⟩ : log.interval = interval ∧ log.windowStart = opened.steady := by
    obtain ⟨console, -, made⟩ := of_bind_ok started
    cases made
    exact ⟨rfl, rfl⟩
  have startIs : history.log.windowStart = start := by
    rw [accounts.windowStart, openedIs]
  obtain ⟨before, -, counted, windowCounted, -⟩ := accounts.instructions
  obtain ⟨shownBefore, -, framesCounted, windowFrames, -⟩ := accounts.frames
  refine ⟨fun now work rounds => ?_, fun now text => ?_, accounts.positive,
    intervalIs ▸ accounts.apart, accounts.instructions.rest, accounts.frames.rest⟩
  · rw [← startIs, ← intervalIs, ← accounts.interval]
    dsimp only
    split
    · rename_i due
      obtain ⟨report, reported, closed, time, elapsed, -, -⟩ :=
        record_of_due counted framesCounted windowCounted windowFrames due work rounds
      exact ⟨report, reported, time, elapsed, closed⟩
    · rename_i early
      exact record_of_early counted framesCounted early work rounds
  · rw [write_debug_ne_empty_iff, accounts.console, threshold_of_started started, Except.ok.injEq]

theorem windows_partition_work_of_reset :
    ∃ log : SessionLog Rat, start? { level := .text "DEBUG" } 5 false ⟨100, 10⟩ = .ok log ∧
      let calls : List Call := [.record ⟨102, 12⟩ 100 2, .record ⟨105, 15⟩ 50 1,
        .record ⟨104, 14⟩ 7 0, .reset ⟨110, 20⟩, .record ⟨116, 26⟩ 60 3,
        .record ⟨116, 26⟩ 8 1, .record ⟨119, 29⟩ 5 1]
      let history := historyOf log calls
      history.reports = [⟨26, 6, 10, 1 / 2⟩] ∧ history.log.instructions = .whole 73 ∧
        history.log.instructions.sub? history.log.windowInstructions = some (.whole 13) ∧
        (history.log.record ⟨121, 31⟩ (.number (.whole 2)) (.number (.whole 1))).2.toOption =
          some "[   21.00s][   DEBUG][Chippy] 75 instructions | CPU: 3 Hz | FPS: 0.6\n" := by
  have started : start? { level := .text "DEBUG" } 5 false ⟨100, (10 : Rat)⟩ = .ok
      ⟨⟨"Chippy", .debug, false, true, 100⟩, 5, .whole 0, .whole 0, 10, .whole 0, .whole 0⟩ := rfl
  refine ⟨_, started, ?_⟩
  intro calls history
  obtain ⟨-, -, -, -, ⟨counted, rest, left, sum⟩, -⟩ := windows_partition_work started calls
  have reports : history.reports = [⟨26, 6, 10, 1 / 2⟩] := by decide +kernel
  have total : recorded Call.instructions calls = 73 := by decide +kernel
  have window : Report.work Report.instructionRate ⟨26, 6, 10, 1 / 2⟩ = 60 := by decide +kernel
  rw [total] at counted sum
  have rest : rest = 13 := by
    rw [show (historyOf _ calls).reports = _ from reports, List.map_singleton, List.sum_singleton,
      window] at sum
    have sum : 60 + rest = 73 := by exact_mod_cast sum
    omega
  subst rest
  exact ⟨reports, counted, left, by decide +kernel⟩

end SessionLog
end Chip8
