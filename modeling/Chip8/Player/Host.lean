import Chip8.Player.Keyboard
import Chip8.Player.Tone

namespace Chip8

/-- What a session is played on: a keyboard that has codes for the names of its keys, a mixer if
sound is put out at all, and memory. -/
structure Host where
  code? : String → Option Nat
  mixer? : Option Mixer
  room : Room

def Host.tone (host : Host) (frequency volume : Number) : Except ToneError (List Int16) :=
  match host.mixer? with
  | some mixer => Tone.samples host.room mixer frequency volume
  | none => .error .noMixer

def Host.desktop : Host := ⟨Keyboard.common?, some ⟨.whole 44100, -16, 1⟩, ⟨17179869184, by decide⟩⟩

end Chip8
