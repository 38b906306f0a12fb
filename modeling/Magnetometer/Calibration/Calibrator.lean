import Magnetometer.Calibration.Offset
import Magnetometer.Calibration.Range
import Magnetometer.Sample

/-!
# Calibration

The offset of an axis is derived from the range of counts observed on it: the
offset places the two ends of the range at -45 and +45 microtesla.  An axis is
calibrated on its own, and a calibrator is the calibration of the three axes.

Restoring a stored offset also seeds the range with the counts that the offset
places at the two targets, so that the next derivation starts from the restored
calibration and not from the first few samples.
-/

namespace Magnetometer

open Number

/-- Calibration of one axis. -/
structure AxisCalibration where
  /-- Fuse byte of the axis. -/
  fuse : UInt8
  /-- Offset in force. -/
  offset : Int32
  /-- Counts observed. -/
  range : Range
deriving DecidableEq, Repr

namespace AxisCalibration

/-- The calibration of an axis before anything was observed. -/
def new (fuse : UInt8) : AxisCalibration := ⟨fuse, 0, .unset⟩

/-- Fold a count into the range. -/
def observe (axis : AxisCalibration) (count : Int16) : AxisCalibration :=
  { axis with range := axis.range.update count }

/-- The offset that places a count at -45 microtesla. -/
def offsetFromMin (fuse : UInt8) (count : Int16) : Single :=
  (Sensitivity.scale fuse * Binary.ofInt count.toInt + targetRange) / microteslaPerUnit

/-- The offset that places a count at +45 microtesla. -/
def offsetFromMax (fuse : UInt8) (count : Int16) : Single :=
  (Sensitivity.scale fuse * Binary.ofInt count.toInt - targetRange) / microteslaPerUnit

/-- The offset of a range: midway between the offsets of its two ends. -/
def offsetOfRange (fuse : UInt8) (range : Range) : Int32 :=
  Single.toInt32
    ((offsetFromMin fuse range.min + offsetFromMax fuse range.max) / Binary.ofInt 2)

/-- Derive the offset from the range. -/
def derive (axis : AxisCalibration) : AxisCalibration :=
  { axis with offset := offsetOfRange axis.fuse axis.range }

/-- The counts that an offset places at -45 and +45 microtesla. -/
def seed (fuse : UInt8) (offset : Int32) : Range where
  min := Single.toInt16 ((-targetRange + HardIronOffset.bias offset) / Sensitivity.scale fuse)
  max := Single.toInt16 ((targetRange + HardIronOffset.bias offset) / Sensitivity.scale fuse)

/-- Take over a stored offset; an axis that was not found stays as it is. -/
def restore (axis : AxisCalibration) (stored : Option Int32) : AxisCalibration :=
  match stored with
  | none => axis
  | some offset => { axis with offset := offset, range := seed axis.fuse offset }

end AxisCalibration

/-- Calibration of the three axes. -/
abbrev Calibrator := Triple AxisCalibration

namespace Calibrator

/-- The offset is derived anew at every multiple of this many samples. -/
def interval : Nat := 10

/-- The calibrator before anything was observed. -/
def new (sensitivity : Sensitivity) : Calibrator := sensitivity.map .new

/-- Fuse bytes of the axes. -/
def sensitivity (c : Calibrator) : Sensitivity := c.map (·.fuse)

/-- Offset in force. -/
def offset (c : Calibrator) : HardIronOffset := c.map (·.offset)

/-- Ranges observed. -/
def ranges (c : Calibrator) : Triple Range := c.map (·.range)

/-- Whether anything worth keeping was observed: some extremum is set. -/
def hasObservations (c : Calibrator) : Bool := !c.ranges.toList.all Range.isUnset

/-- Fold a sample into the ranges. -/
def observe (c : Calibrator) (sample : Sample) : Calibrator := c.zipWith .observe sample

/-- Whether the offset is derived at a sample count. -/
def isDue (count : Nat) : Bool := count != 0 && count % interval == 0

/-- Derive the offset if it is due at a sample count, and tell whether it was. -/
def deriveIfDue (c : Calibrator) (count : Nat) : Calibrator × Bool :=
  if isDue count then (c.map .derive, true) else (c, false)

/-- Take over the offsets found in storage. -/
def restore (c : Calibrator) (stored : StoredOffset) : Calibrator := c.zipWith .restore stored

@[simp]
theorem get_new (sensitivity : Sensitivity) (axis : Axis) :
    (new sensitivity).get axis = ⟨sensitivity.get axis, 0, .unset⟩ := by
  simp [new, AxisCalibration.new]

@[simp]
theorem get_offset (c : Calibrator) (axis : Axis) : c.offset.get axis = (c.get axis).offset := by
  simp [offset]

@[simp]
theorem get_observe (c : Calibrator) (sample : Sample) (axis : Axis) :
    (c.observe sample).get axis = (c.get axis).observe (sample.get axis) := by
  simp [observe]

@[simp]
theorem get_restore (c : Calibrator) (stored : StoredOffset) (axis : Axis) :
    (c.restore stored).get axis = (c.get axis).restore (stored.get axis) := by
  simp [restore]

@[simp]
theorem get_deriveIfDue (c : Calibrator) (count : Nat) (axis : Axis) :
    (c.deriveIfDue count).1.get axis =
      if isDue count then (c.get axis).derive else c.get axis := by
  unfold deriveIfDue
  split <;> simp

end Calibrator

end Magnetometer
