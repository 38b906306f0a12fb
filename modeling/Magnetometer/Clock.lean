/-!
# Manual clocks

A clock of 64-bit nanoseconds that is moved by hand.  Moving it forward wraps
around at the end.
-/

namespace Magnetometer

/-- A clock that shows the time it was moved to. -/
structure ManualClock where
  now : UInt64
deriving DecidableEq, Repr

namespace ManualClock

/-- Move forward by nanoseconds. -/
def advance (clock : ManualClock) (nanoseconds : Nat) : ManualClock :=
  ⟨clock.now + UInt64.ofNat nanoseconds⟩

/-- Move forward by microseconds. -/
def advanceMicroseconds (clock : ManualClock) (microseconds : Nat) : ManualClock :=
  clock.advance (microseconds * 1000)

/-- Move to a time. -/
def set (_ : ManualClock) (now : UInt64) : ManualClock := ⟨now⟩

end ManualClock

end Magnetometer
