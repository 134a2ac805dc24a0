import Chip8.Player.CommandLine

namespace Chip8.Main

def eventsOf : List String → List Event
  | "quit" :: rest => .quit :: eventsOf rest
  | "down" :: name :: rest =>
      ((Keyboard.common? name).elim .other Event.keyDown) :: eventsOf rest
  | "up" :: name :: rest => ((Keyboard.common? name).elim .other Event.keyUp) :: eventsOf rest
  | _ :: rest => .other :: eventsOf rest
  | [] => []

def printedText (effects : List Effect) : String :=
  effects.foldl
    (fun text effect =>
      match effect with
      | .printed more => text ++ more
      | _ => text) ""

def readRom (file : String) : IO Rom := do
  try
    let bytes ← IO.FS.readBinFile file
    return ⟨file, .ok bytes.toList⟩
  catch _ => return ⟨file, .error .missing⟩

partial def playLines (player : Player Float) (input : IO.FS.Stream) (now : Float) : IO Unit := do
  let line ← input.getLine
  let words := ((line.splitOn "\n").headD "").splitOn " "
  let events := if line.isEmpty then [.quit] else eventsOf (words.filter (· ≠ ""))
  let turn := player.turn (.both now) events
  IO.print (printedText turn.effects)
  if turn.failure.isSome then return
  else if turn.player.running then playLines turn.player input (now + 1.0 / 60.0)
  else IO.print (printedText (turn.player.finish (.both now)))

end Chip8.Main

open Chip8 Chip8.Main in
def main (arguments : List String) : IO UInt32 := do
  let command := CommandLine.parse arguments
  match command with
  | .usage => IO.print CommandLine.usageText
  | .play file =>
      match Settings.check {} with
      | .error error => IO.print ((error.message?).getD "")
      | .ok settings =>
          let rom ← readRom file
          match Player.start .desktop settings rom CommandLine.statsInterval false (.both 0.0) with
          | .failed effects _ | .unloadable effects => IO.print (printedText effects)
          | .ready player effects => do
              IO.print (printedText effects)
              playLines player (← IO.getStdin) 0.0
  return command.exitCode
