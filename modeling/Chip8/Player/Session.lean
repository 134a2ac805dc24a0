import Chip8.Interpreter
import Chip8.Player.Drawing
import Chip8.Player.Host

/-!
# A session of the player

A window shows the screen of an interpreter; the keyboard is its keypad. Escape ends the session,
p pauses it, backspace resets the machine and loads the program again. A machine fault pauses.

What a session does to the world is a list of effects. One turn is one round of the loop: wait for
the next frame, take the events, run a frame unless paused, start or stop the tone, draw. A turn
that fails ends the session at once.
-/

namespace Chip8

inductive Event where
  | quit
  | keyDown (code : Nat)
  | keyUp (code : Nat)
  | other
deriving DecidableEq

inductive Effect where
  | soundAndWindowReady
  | windowOpened (width height : Option Number)
  | captioned (title : String)
  | waited (framesPerSecond : Number)
  | eventsTaken
  | printed (text : String)
  | toneStarted
  | toneStopped
  | drawn (stroke : Stroke Color)
  | shown
  | closed

inductive SetupError where
  | key (error : UnknownKey)
  | tone (error : ToneError)
  | palette (error : PaletteError)
  | level (error : LevelError)

instance : Explained SetupError where
  mistake
    | .key error => Explained.mistake error
    | .tone error => error.mistake
    | .palette error => error.mistake
    | .level error => error.mistake
  message?
    | .key error => Explained.message? error
    | .tone error => error.message?
    | .palette error => some error.message
    | .level error => some error.message

inductive TurnError where
  | notKey
  | problem (problem : Problem)

instance : Explained TurnError where
  mistake
    | .notKey => .badIndex
    | .problem problem => problem.mistake
  message?
    | .notKey => some ("only integers, slices (`:`), ellipsis (`...`), numpy.newaxis (`None`) " ++
        "and integer or boolean arrays are valid indices")
    | .problem problem => problem.message?

structure Setup where
  rom : Rom
  framesPerSecond : Number
  instructionsPerFrame : Number
  scale : Number
  palette : Palette
  keyMap : Bindings Nat Number
  tone : List Int16

structure Player (Time : Type) where
  setup : Setup
  interpreter : Interpreter Time
  keypad : Keypad
  running : Bool
  paused : Bool
  beeping : Bool

/-- A step of a session: the player afterwards, the effects on the way, and whether it failed. -/
structure Turn (Time : Type) where
  player : Player Time
  effects : List Effect := []
  failure : Option TurnError := none

def Turn.andThen {Time : Type} (turn : Turn Time) (next : Player Time → Turn Time) : Turn Time :=
  match turn.failure with
  | some _ => turn
  | none =>
      let after := next turn.player
      { after with effects := turn.effects ++ after.effects }

inductive Opening (Time : Type) where
  | failed (effects : List Effect) (error : SetupError)
  | unloadable (effects : List Effect)
  | ready (player : Player Time) (effects : List Effect)

namespace Player
variable {Time : Type} [Clock Time]

private def printedEffect (text : String) : List Effect :=
  if text = "" then [] else [.printed text]

def lift {Error Item : Type} (wrap : Error → SetupError) : Except Error Item →
    Except SetupError Item
  | .ok item => .ok item
  | .error error => .error (wrap error)

def setupOf (host : Host) (settings : Settings) (rom : Rom) : Except SetupError Setup := do
  let keyMap ← lift .key (Keyboard.keyMap host.code? settings.keyMap)
  let tone ← lift .tone (host.tone settings.beepFrequency settings.volume)
  let palette ← lift .palette (Palette.ofSetting (.text settings.colorScheme))
  return {
    rom
    framesPerSecond := settings.framesPerSecond
    instructionsPerFrame := settings.instructionsPerFrame
    scale := settings.scale
    palette, keyMap, tone }

def controlsText : String := "Controls: ESC=Quit, P=Pause, Backspace=Reset"

def start (host : Host) (settings : Settings) (rom : Rom) (interval : Time) (terminal : Bool)
    (now : Reading Time) : Opening Time :=
  match SessionLog.start? { level := .text settings.logLevel } interval terminal now with
  | .error error => .failed [] (.level error)
  | .ok log =>
      let size (pixels : Int) : Option Number := Number.mul? (.whole pixels) settings.scale
      let window : List Effect :=
        [.soundAndWindowReady, .windowOpened (size 64) (size 32), .captioned "chippy"]
      match setupOf host settings rom with
      | .error error => .failed window error
      | .ok setup =>
          let reply :=
            (Interpreter.create (RandomKey.ofSeed 0) (some log)).loadRom now rom
          match reply.problem with
          | some (.load error) =>
              let text :=
                log.write now .error
                  ("Could not load " ++ rom.name ++ ": " ++ error.message?.getD "")
              .unloadable (window ++ printedEffect text ++ [.closed])
          | _ =>
              let player : Player Time := {
                setup
                interpreter := reply.interpreter
                keypad := .released
                running := true
                paused := false
                beeping := false }
              .ready player (window ++ printedEffect reply.printed ++
                printedEffect (log.write now .info controlsText))

def restart (player : Player Time) (now : Reading Time) : Turn Time :=
  let reset := player.interpreter.reset now
  let loaded := reset.interpreter.loadRom now player.setup.rom
  { player := {
      player with
      interpreter := loaded.interpreter
      keypad := .released
      paused := false }
    effects := printedEffect reset.printed ++ printedEffect loaded.printed }

def setKey (player : Player Time) (code : Nat) (held : Bool) : Turn Time :=
  match player.setup.keyMap.lookup code with
  | none => { player }
  | some number =>
      match Keyboard.selection? number with
      | some selection =>
          { player := { player with keypad := player.keypad.setSelected selection held } }
      | none => { player, failure := some .notKey }

def handle (player : Player Time) (now : Reading Time) (event : Event) : Turn Time :=
  match event with
  | .quit => { player := { player with running := false } }
  | .keyDown code =>
      if code = Keyboard.escape then { player := { player with running := false } }
      else if code = Keyboard.pause then { player := { player with paused := !player.paused } }
      else if code = Keyboard.backspace then player.restart now
      else player.setKey code true
  | .keyUp code => player.setKey code false
  | .other => { player }

def handleAll (player : Player Time) (now : Reading Time) : (events : List Event) → Turn Time
  | [] => { player }
  | event :: rest => (player.handle now event).andThen fun next => next.handleAll now rest

def await (player : Player Time) : Turn Time :=
  { player, effects := [.waited player.setup.framesPerSecond, .eventsTaken] }

def runFrame (player : Player Time) (now : Reading Time) : Turn Time :=
  if player.paused then { player }
  else
    let reply :=
      player.interpreter.runFrame now player.keypad (.number player.setup.instructionsPerFrame)
    let ran := { player with interpreter := reply.interpreter }
    let effects := printedEffect reply.printed
    match reply.problem with
    | none => { player := ran, effects }
    | some (.halt (.stack ..)) => { player := { ran with paused := true }, effects }
    | some problem => { player := ran, effects, failure := some (.problem problem) }

def updateTone (player : Player Time) : Turn Time :=
  let sounding := player.interpreter.machine.soundTimer != 0
  if sounding && !player.beeping then
    { player := { player with beeping := true }, effects := [.toneStarted] }
  else if !sounding && player.beeping then
    { player := { player with beeping := false }, effects := [.toneStopped] }
  else { player }

def strokes (player : Player Time) : List (Stroke Color) :=
  player.interpreter.machine.screen.strokes player.setup.scale player.setup.palette.on
    player.setup.palette.off

def draw (player : Player Time) : Turn Time :=
  { player, effects := player.strokes.map .drawn ++ [.shown] }

def turn (player : Player Time) (now : Reading Time) (events : List Event) : Turn Time :=
  (((player.await.andThen fun next => next.handleAll now events).andThen fun next =>
    next.runFrame now).andThen updateTone).andThen draw

/-- Turns until the session ends or the script of events does. Each entry comes with the moment at
which its events are taken. -/
def turns (player : Player Time) : (script : List (Reading Time × List Event)) → List (Turn Time)
  | [] => []
  | (now, events) :: rest =>
      let first := player.turn now events
      let goesOn := first.player.running && first.failure.isNone
      first :: (if goesOn then first.player.turns rest else [])

def finish (player : Player Time) (now : Reading Time) : List Effect :=
  printedEffect (player.interpreter.log.elim "" fun log => log.ended now) ++ [.closed]

end Player
end Chip8
