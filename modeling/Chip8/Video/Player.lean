import Chip8.Picture.Render
import Chip8.Video.Phosphor

/-!
# Showing and writing videos

A video is written to a file, shown in a window, or both. In the window, space pauses and q or
escape ends the video; what the keys were is a script, and when the script is at its end no key is
pressed any more, except that a pause is then ended by escape.

The result is a list of everything that was asked of the file and the window, in order.
-/

namespace Chip8.Video

structure Options where
  file : Option String := none
  framesPerSecond : Number := .real 60.0
  scale : Value := .number (.whole 8)
  palette : Value := .text "chippy"
  persistence : Bool := true
  window : Bool := false

inductive Event where
  | fileOpened (name : String) (framesPerSecond : Float) (width height : Value)
  | written (image : Image)
  | fileReleased
  | windowOpened (title : String)
  | captioned (text : String)
  | shown (image : Image)
  | keyAsked (milliseconds : Nat) (code : Int)
  | slept (seconds : Float)
  | windowsDestroyed

inductive Error where
  | badShape (shape : List Nat)
  | notScalable (kind : String)
  | palette (error : PaletteError)
  | divisionByZero
  | tooManyFrames
  | scale (error : RenderError)
  | sleepTooLong

namespace Error

def message? : Error → Option String
  | badShape shape => some ("Expected display shape (N, 2048), got " ++ shapeText ", " shape)
  | notScalable kind => some ("unsupported operand type(s) for *: 'int' and '" ++ kind ++ "'")
  | palette error => some error.message
  | divisionByZero => some "float division by zero"
  | tooManyFrames => some "int too large to convert to float"
  | scale error => error.message?
  | sleepTooLong => none

def mistake : Error → Mistake
  | badShape _ => .meaningless
  | notScalable _ => .wrongKind
  | palette error => error.mistake
  | divisionByZero => .divisionByZero
  | tooManyFrames | sleepTooLong => .outOfRange
  | scale error => error.mistake

instance : Explained Error := ⟨mistake, message?⟩

end Error

inductive Command where
  | quit
  | pause
  | none
deriving DecidableEq

def command (code : Int) : Command :=
  let low := code % 256
  if low = 113 ∨ low = 27 then .quit else if low = 32 then .pause else .none

def waitPaused : (keys : List Int) → List Int × List Event × Bool
  | [] => ([], [.keyAsked 30 27], false)
  | code :: rest =>
      match command code with
      | .pause => (rest, [.keyAsked 30 code], true)
      | .quit => (rest, [.keyAsked 30 code], false)
      | .none =>
          let (keys, events, goesOn) := waitPaused rest
          (keys, .keyAsked 30 code :: events, goesOn)

def poll (keys : List Int) : List Int × List Event × Bool :=
  let code := keys.headD (-1)
  let rest := keys.tail
  match command code with
  | .quit => (rest, [.keyAsked 1 code], false)
  | .none => (rest, [.keyAsked 1 code], true)
  | .pause =>
      let (keys, events, goesOn) := waitPaused rest
      (keys, .keyAsked 1 code :: events, goesOn)

structure Plan where
  writes : Bool
  shows : Bool
  scale : Int
  palette : Palette
  persistence : Bool
  frameCount : Nat
  frameSeconds : Float

/-- How time goes by in a window: how many seconds a frame has taken before it rests, and whether a
sleep of so many seconds is one to wake up from. -/
structure Pace where
  elapsed : (number : Nat) → Float
  wakes : Float → Bool

/-- Frames take no time, and sleeps are told in nanoseconds that fit into 63 bits. -/
def Pace.still : Pace := ⟨fun _ => 0.0, fun seconds => seconds < 9223372036.0⟩

def Plan.rest (plan : Plan) (pace : Pace) (number : Nat) : Except Error (List Event) :=
  let seconds := plan.frameSeconds - pace.elapsed number
  if 0.0 < seconds then
    if pace.wakes seconds then .ok [.slept seconds] else .error .sleepTooLong
  else .ok []

inductive Outcome where
  | goesOn (keys : List Int)
  | ends (error : Option Error)

def Plan.present (plan : Plan) (pace : Pace) (keys : List Int) (number : Nat) (image : Image) :
    List Event × Outcome :=
  let (keys, asked, goesOn) := poll keys
  let caption := "Frame " ++ toString number ++ "/" ++ toString plan.frameCount
  let events := .captioned caption :: .shown image :: asked
  if goesOn then
    match plan.rest pace number with
    | .ok rest => (events ++ rest, .goesOn keys)
    | .error error => (events, .ends (some error))
  else (events, .ends none)

section Frames
variable {Level : Type} [Glow Level]

def Plan.glow (plan : Plan) (before : Vector Level 2048) (screen : Screen) : Vector Level 2048 :=
  if plan.persistence then Phosphor.next before screen else Phosphor.ofScreen screen

def Plan.frames (plan : Plan) (pace : Pace) (keys : List Int) (number : Nat)
    (before : Vector Level 2048) : (screens : List Screen) → List Event × Option Error
  | [] => ([], none)
  | screen :: rest =>
      let glow := plan.glow before screen
      let image := Phosphor.image glow plan.scale plan.palette
      let writing := if plan.writes then [Event.written image] else []
      if plan.shows then
        match plan.present pace keys number image with
        | (events, .ends error) => (writing ++ events, error)
        | (events, .goesOn keys) =>
            let (later, error) := plan.frames pace keys (number + 1) glow rest
            (writing ++ events ++ later, error)
      else
        let (later, error) := plan.frames pace keys (number + 1) glow rest
        (writing ++ later, error)

end Frames

def screensOf? (displays : PixelArray) : Option (List Screen) :=
  match displays.shape with
  | [count, 2048] => some ((List.range count).map fun index => displays.screenFrom (2048 * index))
  | _ => none

def windowTitle : String := "CHIP-8 Video (q=quit, space=pause)"

def Options.writes (options : Options) : Bool :=
  match options.file with
  | none | some "" => false
  | some _ => true

def Options.opened (options : Options) (width height : Value) : List Event :=
  (if options.writes then
    [.fileOpened (options.file.getD "") options.framesPerSecond.toFloat width height]
  else []) ++
    if options.window then [.windowOpened windowTitle] else []

def Options.closed (options : Options) : List Event :=
  (if options.writes then [.fileReleased] else []) ++
    if options.window then [.windowsDestroyed] else []

def Options.frameSeconds (options : Options) : Except Error Float :=
  match options.framesPerSecond.real? with
  | none => if options.window then .error .tooManyFrames else .ok 0.0
  | some rate =>
      if !options.window then .ok 0.0
      else if rate == 0.0 then .error .divisionByZero
      else .ok (1.0 / rate)

def Options.frames (Level : Type) [Glow Level] (options : Options) (room : Room) (pace : Pace)
    (screens : List Screen) (palette : Palette) (frameSeconds : Float) (keys : List Int) :
    List Event × Option Error :=
  if screens.isEmpty then ([], none)
  else
    match Picture.factor room options.scale with
    | .error error => ([], some (.scale error))
    | .ok scale =>
        let plan : Plan := {
          writes := options.writes
          shows := options.window
          scale, palette
          persistence := options.persistence
          frameCount := screens.length
          frameSeconds }
        plan.frames pace keys 1 (Phosphor.start : Vector Level 2048) screens

def play (Level : Type) [Glow Level] (room : Room) (pace : Pace) (options : Options)
    (displays : PixelArray) (keys : List Int) : List Event × Option Error :=
  if options.file.isNone && !options.window then ([], none)
  else
    match screensOf? displays, options.scale.times? 64, options.scale.times? 32,
        Palette.ofSetting options.palette with
    | none, _, _, _ => ([], some (.badShape displays.shape))
    | some screens, some width, some height, .ok palette =>
        let opened := options.opened width height
        match options.frameSeconds with
        | .error error => (opened, some error)
        | .ok frameSeconds =>
            let (shown, error) :=
              options.frames Level room pace screens palette frameSeconds keys
            (opened ++ shown ++ options.closed, error)
    | some _, some _, some _, .error error => ([], some (.palette error))
    | _, _, _, _ => ([], some (.notScalable options.scale.kindName))

end Chip8.Video
