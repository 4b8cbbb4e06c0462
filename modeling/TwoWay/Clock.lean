/-!
# Clocks

A clock gives readings in nanoseconds since 1970, and a reading may change the clock. The stepping
clock moves by the same amount at every reading and wraps at the end of its word.
-/

namespace TwoWay

/-- A reading, and the clock after it. -/
class Clock (σ : Type) where
  tick : σ → UInt64 × σ

/-- A clock whose next reading is `now`, and which then moves on by `step`. -/
structure SteppingClock where
  now : UInt64
  step : UInt64
deriving DecidableEq

instance : Inhabited SteppingClock := ⟨⟨0, 0⟩⟩

instance : Clock SteppingClock where
  tick c := (c.now, { c with now := c.now + c.step })

end TwoWay
