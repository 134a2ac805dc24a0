import Chip8.Decimal.Fixed
import Chip8.Value

namespace Chip8

/-- What the logs ask of times: differences, comparisons, a rate, and how seconds are written. -/
class Clock (Time : Type) extends Zero Time, Sub Time, LT Time, LE Time where
  decidableLT : DecidableLT Time
  decidableLE : DecidableLE Time
  rate? : Number → Time → Option Time
  fixed : Nat → Time → String

attribute [reducible, instance] Clock.decidableLT Clock.decidableLE

instance : Clock Float where
  decidableLT := inferInstance
  decidableLE := inferInstance
  rate? amount seconds := amount.real?.map (· / seconds)
  fixed := Decimal.fixed

/-- What the clocks of a host show: the time of day, and a counter to measure windows with. -/
structure Reading (Time : Type) where
  day : Time
  steady : Time

def Reading.both {Time : Type} (time : Time) : Reading Time := ⟨time, time⟩

end Chip8
