import Magnetometer.Axis

/-!
# Observed range

The least and the greatest count of an axis.  Zero doubles as the mark of an
extremum that is not set: such an extremum takes the next count whatever it is,
so that a zero reading never stays.
-/

namespace Magnetometer

/-- Least and greatest count observed on an axis; zero where none is set. -/
@[ext]
structure Range where
  min : Int16
  max : Int16
deriving DecidableEq, Repr

namespace Range

/-- The range before any count. -/
def unset : Range := ⟨0, 0⟩

/-- Whether neither extremum is set. -/
def isUnset (r : Range) : Bool := r.min == 0 && r.max == 0

/-- Fold a count into a range. -/
def update (r : Range) (count : Int16) : Range where
  min := if count < r.min ∨ r.min = 0 then count else r.min
  max := if r.max < count ∨ r.max = 0 then count else r.max

@[simp]
theorem isUnset_unset : unset.isUnset = true := rfl

/-- A count is the whole range of what was unset. -/
@[simp]
theorem update_unset (count : Int16) : unset.update count = ⟨count, count⟩ := by
  simp [update, unset]

end Range

end Magnetometer
