import Chip8.Log.ExactClock
import Chip8.Main
import Chip8.Picture.Render
import Chip8.Progress
import Chip8.Video.ExactGlow
import Chip8.Video.Player
import Chip8.Proofs.Checks
import Chip8.Proofs.Decimal.FloatRange
import Chip8.Proofs.Decimal.QuotientSize
import Chip8.Proofs.Input
import Chip8.Proofs.Interpreter.AllOrNothing
import Chip8.Proofs.Interpreter.Calls
import Chip8.Proofs.Interpreter.WorkDone
import Chip8.Proofs.Log.Windows
import Chip8.Proofs.Machine.Arithmetic
import Chip8.Proofs.Machine.BeyondMemory
import Chip8.Proofs.Machine.HostOrder
import Chip8.Proofs.Machine.KeyWaiting
import Chip8.Proofs.Machine.LosslessLoading
import Chip8.Proofs.Machine.RandomStream
import Chip8.Proofs.Machine.Redrawing
import Chip8.Proofs.Machine.RegisterDump
import Chip8.Proofs.Machine.Skipping
import Chip8.Proofs.Machine.Sprites
import Chip8.Proofs.Machine.StraightLine
import Chip8.Proofs.Machine.TimerValues
import Chip8.Proofs.Picture.Painting
import Chip8.Proofs.Player.Finishing
import Chip8.Proofs.Player.Frames
import Chip8.Proofs.Player.HeldKeys
import Chip8.Proofs.Player.Sounding
import Chip8.Proofs.Player.Standstill
import Chip8.Proofs.Player.Starting
import Chip8.Proofs.Video.Closing
import Chip8.Proofs.Video.Fading
import Chip8.Proofs.Video.WindowAndFile
