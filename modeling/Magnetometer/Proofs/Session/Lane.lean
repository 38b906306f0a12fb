import Magnetometer.Session

/-!
# One axis of a session

The axes of a session are kept apart: what it holds of one axis, its lane, follows
from what the uses of calibrator and ring bring for that axis, whatever they bring
for the others.  Two runs that differ on the other axes only therefore show the same
on this one after every step.
-/

namespace Magnetometer

open Number

/-- A use of a calibrator and a ring.  Samples and stored offsets are those of all
axes, or those of one. -/
inductive Use (α β : Type) where
  | record (sample : α)
  | observe (sample : α)
  | derive (count : Nat)
  | restore (stored : β)
  | field (axis : Axis)
deriving DecidableEq

/-- What a use brings for one axis. -/
def Use.on (axis : Axis) : Use Sample StoredOffset → Use Int16 (Option Int32)
  | .record sample => .record (sample.get axis)
  | .observe sample => .observe (sample.get axis)
  | .derive count => .derive count
  | .restore stored => .restore (stored.get axis)
  | .field other => .field other

/-- What there is to see of an axis: its extrema, its offset, and its field. -/
structure Showing where
  range : Range
  offset : Int32
  field? : Option Single
deriving DecidableEq

/-- What a session holds of one axis. -/
structure Lane where
  calibration : AxisCalibration
  slots : Vector Int16 ringSize
  next : Fin ringSize
  count : Nat

namespace Lane

/-- A lane after a use of it. -/
def apply (lane : Lane) : Use Int16 (Option Int32) → Lane
  | .record sample =>
      { lane with
        slots := lane.slots.set lane.next sample
        next := Recent.advance lane.next
        count := lane.count + 1 }
  | .observe sample => { lane with calibration := lane.calibration.observe sample }
  | .derive count =>
      if Calibrator.isDue count then
        { lane with calibration := lane.calibration.derive }
      else
        lane
  | .restore stored => { lane with calibration := lane.calibration.restore stored }
  | .field _ => lane

/-- What there is to see of a lane. -/
def showing (lane : Lane) : Showing where
  range := lane.calibration.range
  offset := lane.calibration.offset
  field? := Recent.fieldOf? lane.calibration (lane.slots.toList.take (min lane.count ringSize))

end Lane

namespace Session

/-- A session after a use of its calibrator or its ring; computing a field only looks
at them. -/
def apply (s : Session) : Use Sample StoredOffset → Session
  | .record sample => { s with recent := s.recent.record sample }
  | .observe sample => { s with calibrator := s.calibrator.observe sample }
  | .derive count => { s with calibrator := (s.calibrator.deriveIfDue count).1 }
  | .restore stored => { s with calibrator := s.calibrator.restore stored }
  | .field _ => s

/-- The lane of an axis. -/
def lane (axis : Axis) (s : Session) : Lane where
  calibration := s.calibrator.get axis
  slots := s.recent.slots.map fun sample => sample.get axis
  next := s.recent.next
  count := s.recent.count

/-- What there is to see of an axis of a session. -/
def showing (axis : Axis) (s : Session) : Showing where
  range := s.calibrator.ranges.get axis
  offset := s.offset.get axis
  field? := s.recent.axisField? s.calibrator axis

theorem showing_eq (axis : Axis) (s : Session) : s.showing axis = (s.lane axis).showing := by
  simp [showing, Lane.showing, lane, Calibrator.ranges, offset, Recent.axisField?,
    Recent.filled, List.map_take, Vector.toList_map]

/-- The lane of an axis after a use follows from what the use brings for the axis. -/
theorem lane_apply (axis : Axis) (s : Session) (use : Use Sample StoredOffset) :
    (s.apply use).lane axis = (s.lane axis).apply (use.on axis) := by
  cases use with
  | record sample => simp [apply, lane, Lane.apply, Use.on, Recent.record]
  | observe sample => simp [apply, lane, Lane.apply, Use.on]
  | derive count =>
      simp only [apply, lane, Lane.apply, Use.on, Calibrator.get_deriveIfDue]
      split <;> rfl
  | restore stored => simp [apply, lane, Lane.apply, Use.on]
  | field other => rfl

/-- The lanes of an axis along a run. -/
theorem map_lane_scanl (axis : Axis) (s : Session) (uses : List (Use Sample StoredOffset)) :
    (uses.scanl apply s).map (lane axis) =
      (uses.map (Use.on axis)).scanl Lane.apply (s.lane axis) := by
  induction uses generalizing s with
  | nil => rfl
  | cons use rest ih => simp [ih, lane_apply]

theorem map_showing_scanl (axis : Axis) (s : Session) (uses : List (Use Sample StoredOffset)) :
    (uses.scanl apply s).map (showing axis) =
      ((uses.map (Use.on axis)).scanl Lane.apply (s.lane axis)).map Lane.showing := by
  rw [← map_lane_scanl, List.map_map]
  exact List.map_congr_left fun s _ => showing_eq axis s

/-- A fresh session knows of an axis only its fuse byte. -/
theorem lane_new (sensitivity : Sensitivity) (axis : Axis) :
    (new sensitivity).lane axis =
      ⟨.new (sensitivity.get axis), .replicate ringSize 0, ⟨0, by decide⟩, 0⟩ := by
  simp [lane, new, Recent.empty, Sample.zero, AxisCalibration.new]

/-- Two runs of the same uses, which agree on the fuse byte of an axis and on what
every sample and every stored offset says of it, show the same extrema, the same
offset and the same field on this axis after every step. -/
theorem showings_eq_of_agree {axis : Axis} {sensitivity otherSensitivity : Sensitivity}
    {uses otherUses : List (Use Sample StoredOffset)}
    (fuse : sensitivity.get axis = otherSensitivity.get axis)
    (agree : uses.map (Use.on axis) = otherUses.map (Use.on axis)) :
    (uses.scanl apply (new sensitivity)).map (showing axis) =
      (otherUses.scanl apply (new otherSensitivity)).map (showing axis) := by
  rw [map_showing_scanl, map_showing_scanl, lane_new, lane_new, fuse, agree]

/-- Two runs that agree on the x axis and on nothing else. -/
theorem showings_eq_of_agree_x :
    let uses : List (Use Sample StoredOffset) :=
      [.restore ⟨some 750, none, some 4⟩, .record ⟨20, 5, 6⟩, .observe ⟨20, 5, 6⟩, .derive 10,
        .field .x]
    let otherUses : List (Use Sample StoredOffset) :=
      [.restore ⟨some 750, some (-9), none⟩, .record ⟨20, 0, 1⟩, .observe ⟨20, -8, 1⟩, .derive 10,
        .field .x]
    let s := uses.foldl apply (new ⟨200, 128, 128⟩)
    let other := otherUses.foldl apply (new ⟨200, 0, 255⟩)
    uses.map (Use.on .x) = otherUses.map (Use.on .x) ∧
      (uses.scanl apply (new ⟨200, 128, 128⟩)).map (showing .x) =
        (otherUses.scanl apply (new ⟨200, 0, 255⟩)).map (showing .x) ∧
      (s.showing .y).range ≠ (other.showing .y).range ∧
      (s.showing .z).range ≠ (other.showing .z).range := by
  intro uses otherUses s other
  have agree : uses.map (Use.on .x) = otherUses.map (Use.on .x) := rfl
  exact ⟨agree, showings_eq_of_agree rfl agree, by decide +kernel, by decide +kernel⟩

end Session

end Magnetometer
