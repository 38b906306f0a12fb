import Magnetometer.Proofs.Calibration.Observed
import Magnetometer.Proofs.Session.Lane

/-!
# Extrema in order

A count replaces each extremum by itself, and one that is zero whatever the count
is; a restore puts the seeds of the stored offset in their place, and these may
saturate or be zero.  Still the least count of an axis is never above the greatest
one: a count that replaces one extremum replaces the other as well where it would
pass it, and the two seeds are rounded in order.
-/

namespace Magnetometer

/-- A use leaves the extrema of its axis in order. -/
theorem Lane.ordered_apply {lane : Lane} (ordered : lane.calibration.range.Ordered)
    (use : Use Int16 (Option Int32)) : (lane.apply use).calibration.range.Ordered := by
  cases use with
  | record count | field axis => exact ordered
  | observe count => exact ordered.update count
  | derive count =>
      rw [Lane.apply]
      split
      · rw [AxisCalibration.range_derive]
        exact ordered
      · exact ordered
  | restore stored => exact AxisCalibration.ordered_restore ordered stored

namespace Session

theorem Ordered.apply {s : Session} (ordered : s.Ordered) (use : Use Sample StoredOffset) :
    (s.apply use).Ordered := by
  intro axis
  have before : (s.lane axis).calibration.range.Ordered := ordered axis
  have kept := Lane.ordered_apply before (use.on axis)
  rw [← lane_apply] at kept
  exact kept

theorem Ordered.foldl_apply {s : Session} (ordered : s.Ordered)
    (uses : List (Use Sample StoredOffset)) : (uses.foldl Session.apply s).Ordered := by
  induction uses generalizing s with
  | nil => exact ordered
  | cons use rest ih => exact ih (ordered.apply use)

/-- Whatever is observed, derived and restored, and in whatever order, the least count
of an axis is not above the greatest one. -/
theorem min_le_max_of_uses (sensitivity : Sensitivity) (uses : List (Use Sample StoredOffset))
    (axis : Axis) :
    let range := ((uses.foldl apply (new sensitivity)).calibrator.get axis).range
    range.min ≤ range.max :=
  (ordered_new sensitivity).foldl_apply uses axis

/-- Seeds that saturate, and a seed that is zero and is replaced by a count above the
other seed. -/
example :
    let uses : List (Use Sample StoredOffset) :=
      [.restore ⟨some Int32.minValue, some Int32.maxValue, some 750⟩, .observe ⟨0, 0, 700⟩]
    (uses.foldl apply (new .neutral)).calibrator.ranges =
      ⟨⟨-32768, 0⟩, ⟨0, 32767⟩, ⟨700, 700⟩⟩ := by
  decide +kernel

end Session

end Magnetometer
