import Chip8.Proofs.Video.WindowAndFile

namespace Chip8.Video

inductive Resource where
  | file
  | window
deriving DecidableEq

inductive Phase where
  | opened
  | used
  | closed
deriving DecidableEq

def Event.phase? : Resource → Event → Option Phase
  | .file, .fileOpened .. => some .opened
  | .file, .written _ => some .used
  | .file, .fileReleased => some .closed
  | .window, .windowOpened _ => some .opened
  | .window, .shown _ | .window, .keyAsked .. => some .used
  | .window, .windowsDestroyed => some .closed
  | _, _ => none

def life (resource : Resource) (events : List Event) : List Phase :=
  events.filterMap (Event.phase? resource)

theorem life_append (resource : Resource) (first second : List Event) :
    life resource (first ++ second) = life resource first ++ life resource second :=
  List.filterMap_append

theorem life_optional (resource : Resource) (condition : Bool) (event : Event) :
    life resource (if condition then [event] else []) =
      if condition then (event.phase? resource).toList else [] := by
  cases condition with
  | false => rfl
  | true => simp only [if_true, life, List.filterMap_cons, List.filterMap_nil]; split <;> simp [*]

/-! ## Use -/

def OnlyUses (asked : Resource → Bool) (events : List Event) : Prop :=
  ∀ event ∈ events, ∀ resource, ∀ phase ∈ event.phase? resource, phase = .used ∧ asked resource

namespace OnlyUses
variable {asked : Resource → Bool} {first second events : List Event}

theorem nil : OnlyUses asked [] := fun _ member => nomatch member

theorem append (left : OnlyUses asked first) (right : OnlyUses asked second) :
    OnlyUses asked (first ++ second) :=
  fun event member => (List.mem_append.mp member).elim (left event) (right event)

theorem life_eq (onlyUses : OnlyUses asked events) (resource : Resource) :
    ∃ uses, life resource events = List.replicate uses .used ∧
      (asked resource = false → uses = 0) := by
  refine ⟨(life resource events).length, List.eq_replicate_iff.mpr ⟨rfl, ?_⟩, ?_⟩
  · intro phase member
    obtain ⟨event, inEvents, found⟩ := List.mem_filterMap.mp member
    exact (onlyUses event inEvents resource phase found).1
  · intro unasked
    rw [List.length_eq_zero_iff, List.eq_nil_iff_forall_not_mem]
    intro phase member
    obtain ⟨event, inEvents, found⟩ := List.mem_filterMap.mp member
    have wanted := (onlyUses event inEvents resource phase found).2
    rw [unasked] at wanted
    cases wanted

end OnlyUses

theorem waitPaused_asks (keys : List Int) :
    ∀ event ∈ (waitPaused keys).2.1, ∃ code, event = .keyAsked 30 code := by
  induction keys with
  | nil => simp [waitPaused]
  | cons code rest ih =>
      rw [waitPaused]
      split
      · simp
      · simp
      · simpa using ih

theorem poll_asks (keys : List Int) :
    ∀ event ∈ (poll keys).2.1, ∃ milliseconds code, event = .keyAsked milliseconds code := by
  have waits := waitPaused_asks keys.tail
  rw [poll]
  dsimp only
  split
  · simp
  · simp
  · intro event member
    rcases List.mem_cons.mp member with rfl | later
    · exact ⟨_, _, rfl⟩
    · obtain ⟨code, same⟩ := waits event later
      exact ⟨_, code, same⟩

section Frames
variable {Level : Type} [Glow Level]

def Plan.asksFor (plan : Plan) : Resource → Bool
  | .file => plan.writes
  | .window => plan.shows

theorem Plan.rest_onlyUses {plan : Plan} {pace : Pace} {number : Nat} {events : List Event}
    (rested : plan.rest pace number = .ok events) : OnlyUses plan.asksFor events := by
  unfold rest at rested
  dsimp only at rested
  split at rested
  · split at rested
    · cases rested
      intro event member resource phase found
      obtain rfl := List.mem_singleton.mp member
      cases resource <;> cases found
    · cases rested
  · cases rested
    exact .nil

theorem Plan.present_onlyUses {plan : Plan} (pace : Pace) (shows : plan.shows = true)
    (keys : List Int) (number : Nat) (image : Image) :
    OnlyUses plan.asksFor (plan.present pace keys number image).1 := by
  have asked : OnlyUses plan.asksFor (.captioned
      ("Frame " ++ toString number ++ "/" ++ toString plan.frameCount) :: .shown image ::
        (poll keys).2.1) := by
    intro event member resource phase found
    simp only [List.mem_cons] at member
    rcases member with rfl | rfl | asked
    · cases resource <;> cases found
    · cases resource <;> cases found
      exact ⟨rfl, shows⟩
    · obtain ⟨milliseconds, code, rfl⟩ := poll_asks keys event asked
      cases resource <;> cases found
      exact ⟨rfl, shows⟩
  unfold Plan.present
  dsimp only
  split
  · split
    · rename_i rested
      exact asked.append (Plan.rest_onlyUses rested)
    · exact asked
  · exact asked

theorem Plan.frames_onlyUses (plan : Plan) (pace : Pace) (keys : List Int) (number : Nat)
    (before : Vector Level 2048) (screens : List Screen) :
    OnlyUses plan.asksFor (plan.frames pace keys number before screens).1 := by
  induction screens generalizing keys number before with
  | nil => exact .nil
  | cons screen rest ih =>
      have writing (image : Image) :
          OnlyUses plan.asksFor (if plan.writes then [Event.written image] else []) := by
        split
        · rename_i writes
          intro event member resource phase found
          obtain rfl := List.mem_singleton.mp member
          cases resource <;> cases found
          exact ⟨rfl, writes⟩
        · exact .nil
      rw [Plan.frames]
      dsimp only
      split
      · rename_i shows
        have presented := Plan.present_onlyUses pace shows keys number
          (Phosphor.image (plan.glow before screen) plan.scale plan.palette)
        split
        · rename_i same
          rw [same] at presented
          exact (writing _).append presented
        · rename_i same
          rw [same] at presented
          exact ((writing _).append presented).append (ih _ _ _)
      · exact (writing _).append (ih _ _ _)

theorem Plan.present_error {plan : Plan} {pace : Pace} {keys : List Int} {number : Nat}
    {image : Image} {events : List Event} {error : Error}
    (presented : plan.present pace keys number image = (events, .ends (some error))) :
    error = .sleepTooLong := by
  have rested := plan.rest_rested pace number
  unfold Plan.present at presented
  dsimp only at presented
  split at presented
  · split at presented
    · cases presented
    · rename_i failed
      cases presented
      rw [failed] at rested
      cases rested
      rfl
  · cases presented

theorem Plan.frames_error (plan : Plan) (pace : Pace) (keys : List Int) (number : Nat)
    (before : Vector Level 2048) (screens : List Screen) {error : Error}
    (failed : (plan.frames pace keys number before screens).2 = some error) :
    error = .sleepTooLong := by
  induction screens generalizing keys number before with
  | nil => cases failed
  | cons screen rest ih =>
      rw [Plan.frames] at failed
      dsimp only at failed
      split at failed
      · split at failed
        · rename_i presented
          obtain rfl : _ = some error := failed
          exact Plan.present_error presented
        · exact ih _ _ _ failed
      · exact ih _ _ _ failed

end Frames

/-! ## Opening and closing -/

namespace Error

def isRefusal : Error → Bool
  | badShape _ | notScalable _ | palette _ => true
  | divisionByZero | tooManyFrames | scale _ | sleepTooLong => false

def isTiming : Error → Bool
  | divisionByZero | tooManyFrames => true
  | badShape _ | notScalable _ | palette _ | scale _ | sleepTooLong => false

theorem isRefusal_of_isTiming {error : Error} (timing : error.isTiming) :
    error.isRefusal = false := by
  cases error <;> first | rfl | cases timing

end Error

namespace Options
variable (options : Options)

def asksFor : Resource → Bool
  | .file => options.writes
  | .window => options.window

def HasFrameTime : Prop :=
  options.window → ∃ rate, options.framesPerSecond.real? = some rate ∧ (rate == 0.0) = false

theorem life_each (resource : Resource) {file window : Event} {phase : Phase}
    (file_phase : ∀ of, file.phase? of = if of = .file then some phase else none)
    (window_phase : ∀ of, window.phase? of = if of = .window then some phase else none) :
    life resource
        ((if options.writes then [file] else []) ++ if options.window then [window] else []) =
      if options.asksFor resource then [phase] else [] := by
  rw [life_append, life_optional, life_optional, file_phase, window_phase]
  cases resource with
  | file =>
      show _ = if options.writes then _ else _
      simp
  | window =>
      show _ = if options.window then _ else _
      simp

theorem life_opened (resource : Resource) (width height : Value) :
    life resource (options.opened width height) =
      if options.asksFor resource then [.opened] else [] :=
  options.life_each resource (by rintro (_ | _) <;> rfl) (by rintro (_ | _) <;> rfl)

theorem life_closed (resource : Resource) :
    life resource options.closed = if options.asksFor resource then [.closed] else [] :=
  options.life_each resource (by rintro (_ | _) <;> rfl) (by rintro (_ | _) <;> rfl)

theorem frames_onlyUses (Level : Type) [Glow Level] (room : Room) (pace : Pace)
    (screens : List Screen) (palette : Palette) (seconds : Float) (keys : List Int) :
    OnlyUses options.asksFor
      (options.frames Level room pace screens palette seconds keys).1 := by
  cases found : Picture.factor room options.scale with
  | error error =>
      rw [frames_of_error Level options room pace screens seconds keys found]
      exact .nil
  | ok scale =>
      rw [frames_of_ok Level options room pace screens seconds keys found]
      have same :
          (options.plan scale palette screens.length seconds).asksFor = options.asksFor := by
        funext resource
        cases resource <;> rfl
      exact same ▸ Plan.frames_onlyUses _ pace keys 1 _ screens

theorem frames_error (Level : Type) [Glow Level] (room : Room) (pace : Pace)
    (screens : List Screen) (palette : Palette) (seconds : Float) (keys : List Int) :
    (options.frames Level room pace screens palette seconds keys).2.any Error.isRefusal =
      false := by
  cases found : Picture.factor room options.scale with
  | error error =>
      rw [frames_of_error Level options room pace screens seconds keys found]
      cases screens <;> rfl
  | ok scale =>
      rw [frames_of_ok Level options room pace screens seconds keys found]
      cases failed : ((options.plan scale palette screens.length seconds).frames pace keys 1
          (Phosphor.start : Vector Level 2048) screens).2 with
      | none => rfl
      | some error =>
          rw [Plan.frames_error _ pace keys 1 _ screens failed]
          rfl

theorem frameSeconds_cases :
    (options.HasFrameTime ∧ ∃ seconds, options.frameSeconds = .ok seconds) ∨
      ¬ options.HasFrameTime ∧
        ∃ error, options.frameSeconds = .error error ∧ error.isTiming := by
  unfold HasFrameTime frameSeconds
  cases shows : options.window with
  | false => cases options.framesPerSecond.real? <;> simp
  | true =>
      cases found : options.framesPerSecond.real? with
      | none => simp [Error.isTiming]
      | some rate => cases zero : rate == 0.0 <;> simp [zero, Error.isTiming]

end Options

/-- How a video ends. -/
inductive Ended (options : Options) : List Event → Option Error → Prop where
  | unasked (nothing : ∀ resource, options.asksFor resource = false) : Ended options [] none
  | refused {error : Error} (refusal : error.isRefusal) : Ended options [] (some error)
  | untimed {events : List Event} {error : Error} (noTime : ¬ options.HasFrameTime)
      (timing : error.isTiming)
      (life_eq : ∀ resource,
        life resource events = if options.asksFor resource then [.opened] else []) :
      Ended options events (some error)
  | closed {events : List Event} {error : Option Error} (hasTime : options.HasFrameTime)
      (accepted : error.any Error.isRefusal = false)
      (life_eq : ∀ resource, ∃ uses, life resource events =
        if options.asksFor resource then .opened :: List.replicate uses .used ++ [.closed]
        else []) :
      Ended options events error

theorem Options.life_between (options : Options) {taken : List Event}
    (onlyUses : OnlyUses options.asksFor taken) (width height : Value) (resource : Resource) :
    ∃ uses, life resource (options.opened width height ++ taken ++ options.closed) =
      if options.asksFor resource then .opened :: List.replicate uses .used ++ [.closed]
      else [] := by
  obtain ⟨uses, used, unused⟩ := onlyUses.life_eq resource
  refine ⟨uses, ?_⟩
  rw [life_append, life_append, options.life_opened, options.life_closed, used]
  cases asked : options.asksFor resource with
  | false => simp [unused asked]
  | true => simp

theorem play_ended (Level : Type) [Glow Level] (room : Room) (pace : Pace) (options : Options)
    (displays : PixelArray) (keys : List Int) :
    Ended options (play Level room pace options displays keys).1
      (play Level room pace options displays keys).2 := by
  unfold play
  split
  · rename_i nothing
    obtain ⟨noFile, noWindow⟩ := Bool.and_eq_true_iff.mp nothing
    refine .unasked fun resource => ?_
    cases resource with
    | file => simp [Options.asksFor, Options.writes, Option.isNone_iff_eq_none.mp noFile]
    | window =>
        show options.window = false
        simpa using noWindow
  · split
    · exact .refused rfl
    · dsimp only
      rcases options.frameSeconds_cases with
        ⟨hasTime, seconds, shown⟩ | ⟨noTime, error, failed, timing⟩
      · rw [shown]
        exact .closed hasTime (options.frames_error Level room pace _ _ seconds keys)
          (options.life_between (options.frames_onlyUses Level room pace _ _ seconds keys) _ _)
      · rw [failed]
        exact .untimed noTime timing fun resource => options.life_opened resource _ _
    · exact .refused rfl
    · exact .refused rfl

/-- A video that is refused opens nothing, and any other one opens what it is asked for and nothing
else. What it opens it uses for a while and closes once, and with that it is done with it: after the
last frame, after a key that ends it, after a scale that is refused, and after a sleep that is too
long. Only if a window is asked
for and a frame in it has no time, everything that was opened stays open. -/
theorem closes_what_it_opens (Level : Type) [Glow Level] (room : Room) (pace : Pace)
    (options : Options) (displays : PixelArray) (keys : List Int) :
    let events := (play Level room pace options displays keys).1
    let error := (play Level room pace options displays keys).2
    (error.any Error.isRefusal → events = []) ∧
    (error.any Error.isRefusal = false →
      ∀ resource, life resource events ≠ [] ↔ options.asksFor resource) ∧
    (options.HasFrameTime → ∀ resource, life resource events = [] ∨
      ∃ uses, life resource events = .opened :: List.replicate uses .used ++ [.closed]) ∧
    (¬ options.HasFrameTime → ∀ resource, life resource events = [] ∨
      life resource events = [.opened] ∧ error.any Error.isTiming) := by
  intro events error
  have ended : Ended options events error := play_ended Level room pace options displays keys
  clear_value events error
  cases ended with
  | unasked nothing =>
      refine ⟨nofun, fun _ resource => ?_, fun _ _ => .inl rfl, fun _ _ => .inl rfl⟩
      simp [life, nothing resource]
  | refused refusal =>
      refine ⟨fun _ => rfl, fun accepted => ?_, fun _ _ => .inl rfl, fun _ _ => .inl rfl⟩
      rw [Option.any_some, refusal] at accepted
      cases accepted
  | untimed noTime timing life_eq =>
      refine ⟨fun refused => ?_, fun _ resource => ?_, fun hasTime => absurd hasTime noTime,
        fun _ resource => ?_⟩
      · rw [Option.any_some, Error.isRefusal_of_isTiming timing] at refused
        cases refused
      · rw [life_eq]
        cases options.asksFor resource <;> simp
      · rw [life_eq]
        cases options.asksFor resource with
        | false => exact .inl rfl
        | true => exact .inr ⟨rfl, timing⟩
  | closed hasTime accepted life_eq =>
      refine ⟨fun refused => ?_, fun _ resource => ?_, fun _ resource => ?_,
        fun noTime => absurd hasTime noTime⟩
      · rw [accepted] at refused
        cases refused
      · obtain ⟨uses, same⟩ := life_eq resource
        rw [same]
        cases options.asksFor resource <;> simp
      · obtain ⟨uses, same⟩ := life_eq resource
        rw [same]
        cases options.asksFor resource with
        | false => exact .inl rfl
        | true => exact .inr ⟨uses, rfl⟩

example :
    let options : Options :=
      { file := some "video.mp4", framesPerSecond := .whole 0, window := true }
    life .file (play Float32 ⟨1048576, by decide⟩ .still options (PixelArray.dark [1, 2048]) []).1 =
      [.opened] := by
  decide +kernel

end Chip8.Video
