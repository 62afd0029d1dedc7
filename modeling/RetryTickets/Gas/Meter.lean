-- A gas meter: what is left and what was burned. A charge that is not met
-- burns all that is left.
import RetryTickets.Gas

namespace RetryTickets

/-- What a caller may still spend, and what was spent. -/
structure Meter where
  remaining : UInt64
  burned : UInt64
  deriving DecidableEq

namespace Meter

/-- A meter with nothing burned. -/
def ofLimit (limit : UInt64) : Meter := ⟨limit, 0⟩

/-- Charges an amount. -/
def burn (amount : UInt64) (meter : Meter) : Except Shortfall Unit × Meter :=
  if meter.remaining < amount then
    (.error ⟨amount, meter.remaining⟩, ⟨0, meter.burned + meter.remaining⟩)
  else
    (.ok (), ⟨meter.remaining - amount, meter.burned + amount⟩)

end Meter

end RetryTickets
