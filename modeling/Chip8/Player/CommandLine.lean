import Chip8.Player.Session

namespace Chip8.CommandLine

inductive Command where
  | play (file : String)
  | usage
deriving DecidableEq

def parse : List String → Command
  | [file] => .play file
  | _ => .usage

def usageText : String := "usage: python main.py ROM\n"

def Command.exitCode : Command → UInt32
  | play _ => 0
  | usage => 2

def statsInterval : Float := 5.0

def turnTimes (frameSeconds now : Float) : (count : Nat) → List Float
  | 0 => []
  | count + 1 => (now + frameSeconds) :: turnTimes frameSeconds (now + frameSeconds) count

/-- The effects of a session. The clock stands still except for the wait before each turn, which
takes `frameSeconds`. Only a session that was ended has an end of its own. -/
def play (host : Host) (settings : Settings) (rom : Rom) (terminal : Bool) (frameSeconds : Float)
    (script : List (List Event)) : Opening Float × List (Turn Float) × List Effect :=
  let opening := Player.start host settings rom statsInterval terminal (.both 0.0)
  match opening with
  | .ready player _ =>
      let times := turnTimes frameSeconds 0.0 script.length
      let turns := player.turns ((times.map .both).zip script)
      let last := turns.getLast?.getD { player }
      let ending :=
        if last.failure.isSome || last.player.running then []
        else last.player.finish (.both (times.getD (turns.length - 1) 0.0))
      (opening, turns, ending)
  | _ => (opening, [], [])

end Chip8.CommandLine
