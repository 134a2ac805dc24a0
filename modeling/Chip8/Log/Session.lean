import Chip8.Log.Console
import Chip8.Report

/-!
# Session log

Counts executed instructions and frames, and reports the throughput of a window of time at debug
level. A window starts when the log is opened, at a reset, and at each report; a report is due
when the window is longer than nothing and at least as long as the interval.
-/

namespace Chip8

structure Throughput (Time : Type) where
  instructions : Number
  frames : Number
  elapsed : Time

structure SessionLog (Time : Type) where
  console : Console Time
  interval : Time
  instructions : Number
  frames : Number
  windowStart : Time
  windowInstructions : Number
  windowFrames : Number

inductive CountError where
  | tooLarge
  | notCountable (sum added : String)
deriving DecidableEq

namespace CountError

def message : CountError → String
  | tooLarge => "int too large to convert to float"
  | notCountable sum added =>
      "unsupported operand type(s) for +=: '" ++ sum ++ "' and '" ++ added ++ "'"

def mistake : CountError → Mistake
  | tooLarge => .outOfRange
  | notCountable .. => .wrongKind

instance : Explained CountError := ⟨mistake, fun error => some error.message⟩

end CountError

namespace SessionLog
variable {Time : Type} [Clock Time]

def start? (options : LogOptions) (interval : Time) (terminal : Bool)
    (now : Reading Time) : Except LevelError (SessionLog Time) := do
  return {
    console := ← Console.start? options terminal now.day
    interval
    instructions := .whole 0
    frames := .whole 0
    windowStart := now.steady
    windowInstructions := .whole 0
    windowFrames := .whole 0 }

def write (log : SessionLog Time) (now : Reading Time) (level : Level) (message : String) :
    String :=
  log.console.log now.day level message

def restart (log : SessionLog Time) (now : Reading Time) : SessionLog Time :=
  { log with
    instructions := .whole 0
    frames := .whole 0
    windowStart := now.steady
    windowInstructions := .whole 0
    windowFrames := .whole 0 }

def increase (sum : Number) (added : Value) : Except CountError Number :=
  match added with
  | .number number =>
      match sum.add? number with
      | some total => .ok total
      | none => .error .tooLarge
  | other => .error (.notCountable sum.kindName other.kindName)

def count (log : SessionLog Time) (instructions frames : Value) :
    SessionLog Time × Option CountError :=
  match increase log.instructions instructions with
  | .error error => (log, some error)
  | .ok instructions =>
      let log := { log with instructions }
      match increase log.frames frames with
      | .error error => (log, some error)
      | .ok frames => ({ log with frames }, none)

def due? (log : SessionLog Time) (now : Reading Time) : Option Time :=
  let elapsed := now.steady - log.windowStart
  if elapsed ≤ 0 ∨ elapsed < log.interval then none else some elapsed

def window? (log : SessionLog Time) (elapsed : Time) : Option (Throughput Time) :=
  return {
    instructions := ← log.instructions.sub? log.windowInstructions
    frames := ← log.frames.sub? log.windowFrames
    elapsed }

def closeWindow (log : SessionLog Time) (now : Reading Time) : SessionLog Time :=
  { log with
    windowStart := now.steady
    windowInstructions := log.instructions
    windowFrames := log.frames }

def throughputText? (log : SessionLog Time) (throughput : Throughput Time) : Option String :=
  return log.instructions.grouped ++ " instructions | CPU: " ++
    Clock.fixed 0 (← Clock.rate? throughput.instructions throughput.elapsed) ++ " Hz | FPS: " ++
    Clock.fixed 1 (← Clock.rate? throughput.frames throughput.elapsed)

def report (log : SessionLog Time) (now : Reading Time) (elapsed : Time) :
    SessionLog Time × Except CountError String :=
  match log.window? elapsed >>= log.throughputText? with
  | none => (log, .error .tooLarge)
  | some text => (log.closeWindow now, .ok (log.write now .debug text))

def record (log : SessionLog Time) (now : Reading Time) (instructions frames : Value) :
    SessionLog Time × Except CountError String :=
  match log.count instructions frames with
  | (counted, some error) => (counted, .error error)
  | (counted, none) =>
      match counted.due? now with
      | none => (counted, .ok "")
      | some elapsed => counted.report now elapsed

/-- Report a program; `none` if its source is broken text, which cannot be written. -/
def loaded? (log : SessionLog Time) (now : Reading Time) (source size : Value) : Option String :=
  match source with
  | .brokenText _ => if Level.info.rank < log.console.threshold.rank then some "" else none
  | source =>
      some (log.write now .info
        ("Loaded " ++ source.display ++ " (" ++ size.display ++ " bytes)"))

def reset (log : SessionLog Time) (now : Reading Time) : SessionLog Time × String :=
  (log.restart now, log.write now .info "Machine reset")

def halted (log : SessionLog Time) (now : Reading Time) (reason : String) : String :=
  log.write now .error ("Machine halted: " ++ reason)

def ended (log : SessionLog Time) (now : Reading Time) : String :=
  log.write now .info
    ("Session ended after " ++ Clock.fixed 1 (now.day - log.console.start) ++ "s: " ++
      log.instructions.grouped ++ " instructions, " ++ log.frames.grouped ++ " frames")

end SessionLog
end Chip8
