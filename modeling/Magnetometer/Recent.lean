import Magnetometer.Calibration.Calibrator
import Magnetometer.Event

/-!
# Recent samples

A ring of the last four samples and the count of all samples.  A published
value is the mean of the filled places on its axis, adjusted by the factor of
the axis and freed of its bias.
-/

namespace Magnetometer

open Number

/-- Number of samples that a ring holds. -/
def ringSize : Nat := 4

/-- The last few samples and the number of samples so far. -/
structure Recent where
  /-- Places of the ring. -/
  slots : Vector Sample ringSize
  /-- Place that the next sample takes. -/
  next : Fin ringSize
  /-- Number of samples so far. -/
  count : Nat
deriving DecidableEq, Repr

namespace Recent

/-- The ring before the first sample. -/
def empty : Recent := ⟨Vector.replicate ringSize Sample.zero, ⟨0, by decide⟩, 0⟩

/-- The place after a place; the first one follows the last one. -/
def advance (place : Fin ringSize) : Fin ringSize :=
  ⟨(place + 1) % ringSize, Nat.mod_lt _ (by decide)⟩

/-- Put a sample into the ring, in place of the oldest one if it is full. -/
def record (r : Recent) (sample : Sample) : Recent where
  slots := r.slots.set r.next sample
  next := advance r.next
  count := r.count + 1

/-- The samples in the filled places. -/
def filled (r : Recent) : List Sample := r.slots.toList.take (min r.count ringSize)

/-- Sum of counts in single precision. -/
def sum (counts : List Int16) : Single :=
  (counts.map fun count => Binary.ofInt count.toInt).foldl (· + ·) (Binary.ofInt 0)

/-- Field of averaged counts on an axis; none without counts. -/
def fieldOf? (axis : AxisCalibration) (counts : List Int16) : Option Single :=
  if counts.isEmpty then
    none
  else
    let mean := sum counts / Binary.ofInt counts.length
    some (microteslaPerCount * (mean * Sensitivity.factor axis.fuse)
      - HardIronOffset.bias axis.offset)

/-- Field on an axis in microtesla; none before the first sample. -/
def axisField? (r : Recent) (calibrator : Calibrator) (axis : Axis) : Option Single :=
  fieldOf? (calibrator.get axis) (r.filled.map fun sample => sample.get axis)

/-- Current field vector; none before the first sample. -/
def vector? (r : Recent) (calibrator : Calibrator) : Option FieldVector := do
  let x ← r.axisField? calibrator .x
  let y ← r.axisField? calibrator .y
  let z ← r.axisField? calibrator .z
  return ⟨⟨x, y, z⟩, .medium⟩

@[simp]
theorem count_record (r : Recent) (sample : Sample) : (r.record sample).count = r.count + 1 := rfl

end Recent

end Magnetometer
