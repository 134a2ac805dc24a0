import Chip8.Video.Player

/-!
# Frames in a window

In a window the images are taken one by one: each is written, captioned and shown, and then the keys
are asked for, until the video goes on or ends (`Windowed`, `frames_windowed`). Without a window
every image is written (`frames_eq_written`).
-/

namespace Chip8.Video

namespace Event

def written? : Event → Option Image
  | .written image => some image
  | _ => none

def shown? : Event → Option Image
  | .shown image => some image
  | _ => none

def answers (meaning : Command) : Event → Bool
  | .keyAsked _ code => command code == meaning
  | _ => false

end Event

def written (events : List Event) : List Image := events.filterMap Event.written?

def shown (events : List Event) : List Image := events.filterMap Event.shown?

def isPaused : List Event → Bool
  | [] => false
  | event :: rest => event.answers .pause ^^ isPaused rest

theorem written_append (first second : List Event) :
    written (first ++ second) = written first ++ written second := List.filterMap_append

theorem isPaused_append (first second : List Event) :
    isPaused (first ++ second) = (isPaused first ^^ isPaused second) := by
  induction first with
  | nil => exact (Bool.false_xor _).symm
  | cons event rest ih => rw [List.cons_append, isPaused, isPaused, ih, Bool.xor_assoc]

def Event.isIdle (event : Event) : Prop :=
  event.written? = none ∧ event.shown? = none ∧ event.answers .quit = false

def Idle (events : List Event) : Prop := ∀ event ∈ events, event.isIdle

namespace Idle
variable {events first second : List Event}

theorem nil : Idle [] := fun _ member => nomatch member

theorem single {event : Event} (idle : event.isIdle) : Idle [event] := by
  intro found member
  rwa [List.mem_singleton.mp member]

theorem optional (condition : Prop) [Decidable condition] {event : Event} (idle : event.isIdle) :
    Idle (if condition then [event] else []) := by
  split
  · exact single idle
  · exact nil

theorem append (left : Idle first) (right : Idle second) : Idle (first ++ second) :=
  fun event member => (List.mem_append.mp member).elim (left event) (right event)

theorem written_eq_nil (idle : Idle events) : written events = [] :=
  List.filterMap_eq_nil_iff.mpr fun event member => (idle event member).1

theorem written_between (left : Idle first) (right : Idle second) (events : List Event) :
    written (first ++ events ++ second) = written events := by
  rw [written_append, written_append, left.written_eq_nil, right.written_eq_nil, List.nil_append,
    List.append_nil]

end Idle

/-! ## Keys -/

/-- The keys that are asked for until the video goes on, from a moment at which it may be paused,
or until one of them ends it. -/
inductive Polled (paused : Bool) : List Event → Bool → Prop where
  | goesOn {asked : List Event} (idle : Idle asked) (unpaused : isPaused asked = paused) :
      Polled paused asked true
  | quit {asked : List Event} (idle : Idle asked) (milliseconds : Nat) {code : Int}
      (quits : command code = .quit) : Polled paused (asked ++ [.keyAsked milliseconds code]) false

theorem Polled.cons {asked : List Event} {goesOn paused : Bool}
    (polled : Polled paused asked goesOn) (milliseconds : Nat) (code : Int)
    (stays : command code ≠ .quit) :
    Polled (command code == .pause ^^ paused) (.keyAsked milliseconds code :: asked) goesOn := by
  have key : Idle [.keyAsked milliseconds code] := .single ⟨rfl, rfl, beq_false_of_ne stays⟩
  cases polled with
  | goesOn idle unpaused =>
      exact .goesOn (key.append idle) (by rw [← unpaused]; rfl)
  | quit idle last quits => exact .quit (key.append idle) last quits

theorem waitPaused_polled (keys : List Int) :
    Polled true (waitPaused keys).2.1 (waitPaused keys).2.2 := by
  induction keys with
  | nil => exact Polled.quit .nil 30 (by decide)
  | cons code rest ih =>
      rw [waitPaused]
      split
      · rename_i pause
        have asked := (Polled.goesOn .nil rfl).cons 30 code (by simp [pause])
        rwa [pause] at asked
      · rename_i quits
        exact Polled.quit .nil 30 quits
      · rename_i other
        have asked := ih.cons 30 code (by simp [other])
        rwa [other] at asked

theorem poll_polled (keys : List Int) : Polled false (poll keys).2.1 (poll keys).2.2 := by
  rw [poll]
  generalize keys.headD (-1) = code
  dsimp only
  split
  · rename_i quits
    exact Polled.quit .nil 1 quits
  · rename_i other
    have asked := (Polled.goesOn .nil rfl).cons 1 code (by simp [other])
    rwa [other] at asked
  · rename_i pause
    have asked := (waitPaused_polled keys.tail).cons 1 code (by simp [pause])
    rwa [pause] at asked

/-! ## Images -/

/-- What happens in a window: image after image is written, captioned and shown, and after it the
video goes on or a key ends it. Only if not all sleeps are ones to wake up from, one that is too
long may end it, too. -/
inductive Windowed (wakes : Prop) : List Image → List Event → Option Error → Prop where
  | ended : Windowed wakes [] [] none
  | next {image : Image} {images : List Image} {caption : String} {between events : List Event}
      {error : Option Error} (idle : Idle between) (unpaused : isPaused between = false)
      (later : Windowed wakes images events error) :
      Windowed wakes (image :: images)
        (.written image :: .captioned caption :: .shown image :: between ++ events) error
  | quit {image : Image} {images : List Image} {caption : String} {asked : List Event}
      (idle : Idle asked) (milliseconds : Nat) {code : Int} (quits : command code = .quit) :
      Windowed wakes (image :: images)
        (.written image :: .captioned caption :: .shown image :: asked ++
          [.keyAsked milliseconds code]) none
  | overslept {image : Image} {images : List Image} {caption : String} {asked : List Event}
      (idle : Idle asked) (sleeps : ¬ wakes) :
      Windowed wakes (image :: images)
        (.written image :: .captioned caption :: .shown image :: asked) (some .sleepTooLong)

/-- Whatever rest is left of a frame that takes so long, one wakes up from it. -/
def Pace.Wakes (pace : Pace) (frameSeconds : Float) : Prop :=
  ∀ number, 0.0 < frameSeconds - pace.elapsed number →
    pace.wakes (frameSeconds - pace.elapsed number)

inductive Rested (plan : Plan) (pace : Pace) : Except Error (List Event) → Prop where
  | woke {events : List Event} (idle : Idle events) (unpaused : isPaused events = false) :
      Rested plan pace (.ok events)
  | overslept (sleeps : ¬ pace.Wakes plan.frameSeconds) : Rested plan pace (.error .sleepTooLong)

theorem Plan.rest_rested (plan : Plan) (pace : Pace) (number : Nat) :
    Rested plan pace (plan.rest pace number) := by
  unfold rest
  dsimp only
  split
  · rename_i rests
    split
    · exact .woke (.single ⟨rfl, rfl, rfl⟩) rfl
    · rename_i tooLong
      exact .overslept fun wakes => tooLong (wakes number rests)
  · exact .woke .nil rfl

section Frames
variable {Level : Type} [Glow Level] {plan : Plan} {pace : Pace}

def Plan.images (plan : Plan) (before : Vector Level 2048) : (screens : List Screen) → List Image
  | [] => []
  | screen :: rest =>
      let glow := plan.glow before screen
      Phosphor.image glow plan.scale plan.palette :: plan.images glow rest

theorem images_eq_map (before : Vector Level 2048) (screens : List Screen) :
    plan.images before screens = (List.range screens.length).map fun index =>
      Phosphor.image ((screens.take (index + 1)).foldl plan.glow before) plan.scale
        plan.palette := by
  induction screens generalizing before with
  | nil => rfl
  | cons screen rest ih =>
      rw [Plan.images, ih, List.length_cons, List.range_succ_eq_map, List.map_cons, List.map_map]
      rfl

theorem frames_eq_written (writes : plan.writes = true) (hidden : plan.shows = false)
    (keys : List Int) (number : Nat) (before : Vector Level 2048) (screens : List Screen) :
    plan.frames pace keys number before screens =
      ((plan.images before screens).map .written, none) := by
  induction screens generalizing number before with
  | nil => rfl
  | cons screen rest ih =>
      simp only [Plan.frames, writes, hidden, ih, Plan.images]
      rfl

theorem frames_windowed (plan : Plan) (pace : Pace) (writes : plan.writes = true)
    (shows : plan.shows = true) (keys : List Int) (number : Nat) (before : Vector Level 2048)
    (screens : List Screen) :
    Windowed (pace.Wakes plan.frameSeconds) (plan.images before screens)
      (plan.frames pace keys number before screens).1
      (plan.frames pace keys number before screens).2 := by
  -- The keys, the number of the frame and the glow are handed from frame to frame.
  induction screens generalizing keys number before with
  | nil => exact .ended
  | cons screen rest ih =>
      have polled := poll_polled keys
      simp only [Plan.frames, Plan.present, writes, shows, Plan.images, if_true]
      generalize poll keys = asked at polled
      obtain ⟨keys, asked, goesOn⟩ := asked
      cases polled with
      | quit idle milliseconds quits => exact .quit idle milliseconds quits
      | goesOn idle unpaused =>
          have rested := plan.rest_rested pace number
          simp only [if_true]
          generalize plan.rest pace number = rest at rested
          cases rested with
          | @woke rest restIdle restUnpaused =>
              have running : isPaused (asked ++ rest) = false := by
                rw [isPaused_append, unpaused, restUnpaused]
                rfl
              have later := ih keys (number + 1) (plan.glow before screen)
              exact .next (idle.append restIdle) running later
          | overslept sleeps => exact .overslept idle sleeps

end Frames

namespace Windowed
variable {images : List Image} {events before after : List Event} {error : Option Error}
  {wakes : Prop}

theorem written_block {image : Image} {caption : String} {rest : List Event} (idle : Idle rest) :
    written (.written image :: .captioned caption :: .shown image :: rest) = [image] :=
  congrArg (image :: ·) idle.written_eq_nil

theorem written_prefix (windowed : Windowed wakes images events error) :
    written events <+: images := by
  induction windowed with
  | ended => exact List.prefix_rfl
  | next idle unpaused later ih =>
      rw [written_append, written_block idle]
      exact (List.prefix_append_right_inj _).mpr ih
  | quit idle milliseconds quits =>
      rw [written_append, written_block idle]
      exact (List.prefix_append_right_inj _).mpr List.nil_prefix
  | overslept idle sleeps =>
      rw [written_block idle]
      exact List.prefix_append [_] _

variable {opened closed : List Event} (start : Idle opened) (ending : Idle closed)
include start ending

end Windowed

end Chip8.Video
