import Magnetometer.Proofs.Calibration.Restore
import Magnetometer.Proofs.Calibration.Seed

/-!
# Observations stay

Zero marks an extremum that is not set, so a zero reading takes away an extremum
that was set.  It never takes away both extrema of an axis: they are in order,
and zero is not at once below a least count and above a greatest one.  A session
that observed something therefore has an observation from then on, whatever is
read and restored.
-/

namespace Magnetometer

namespace Range

/-- The least count is not above the greatest one. -/
def Ordered (r : Range) : Prop := r.min ≤ r.max

theorem ordered_unset : unset.Ordered := Int16.le_refl _

theorem isUnset_eq_true_iff {r : Range} : r.isUnset = true ↔ r.min = 0 ∧ r.max = 0 := by
  rw [isUnset, Bool.and_eq_true, beq_iff_eq, beq_iff_eq]

variable {r : Range}

/-- A count leaves the extrema in order. -/
theorem Ordered.update (ordered : r.Ordered) (count : Int16) : (r.update count).Ordered := by
  unfold Ordered at *
  unfold Range.update
  dsimp only
  rw [Int16.le_iff_toInt_le] at *
  by_cases low : count < r.min ∨ r.min = 0 <;> by_cases high : r.max < count ∨ r.max = 0 <;>
    simp only [low, high, if_true, if_false, le_refl]
  all_goals
    simp only [Int16.lt_iff_toInt_lt, ← Int16.toInt_inj, Int16.toInt_zero] at low high
    omega

/-- Only a zero takes away a least count, and only one that is not negative. -/
theorem nonneg_of_min_update_eq_zero {count : Int16} (taken : (r.update count).min = 0) :
    0 ≤ r.min := by
  unfold Range.update at taken
  dsimp only at taken
  split at taken
  · rename_i replaced
    subst taken
    rcases replaced with below | unset
    · exact Int16.le_of_lt below
    · rw [unset]
      exact Int16.le_refl 0
  · rename_i kept
    exact absurd (.inr taken) kept

/-- Only a zero takes away a greatest count, and only one that is not positive. -/
theorem nonpos_of_max_update_eq_zero {count : Int16} (taken : (r.update count).max = 0) :
    r.max ≤ 0 := by
  unfold Range.update at taken
  dsimp only at taken
  split at taken
  · rename_i replaced
    subst taken
    rcases replaced with above | unset
    · exact Int16.le_of_lt above
    · rw [unset]
      exact Int16.le_refl 0
  · rename_i kept
    exact absurd (.inr taken) kept

/-- No count takes away both extrema. -/
theorem Ordered.isUnset_update (ordered : r.Ordered) (set : r.isUnset = false) (count : Int16) :
    (r.update count).isUnset = false := by
  by_contra taken
  rw [Bool.not_eq_false, isUnset_eq_true_iff] at taken
  have above := nonneg_of_min_update_eq_zero taken.1
  have below := nonpos_of_max_update_eq_zero taken.2
  have unset : r.isUnset = true := isUnset_eq_true_iff.mpr
    ⟨Int16.le_antisymm (Int16.le_trans ordered below) above,
      Int16.le_antisymm below (Int16.le_trans above ordered)⟩
  rw [set] at unset
  contradiction

end Range

/-- An offset is derived from the extrema, which stay as they are. -/
theorem AxisCalibration.range_derive (axis : AxisCalibration) :
    axis.derive.range = axis.range := by
  rw [derive]

/-- A restore leaves the extrema in order, whether it finds the axis or not. -/
theorem AxisCalibration.ordered_restore {axis : AxisCalibration} (ordered : axis.range.Ordered)
    (stored : Option Int32) : (axis.restore stored).range.Ordered := by
  cases stored with
  | none => exact ordered
  | some offset => exact seed_ordered _ _

namespace Calibrator

theorem hasObservations_eq_true_iff {c : Calibrator} :
    c.hasObservations = true ↔ ∃ axis, (c.get axis).range.isUnset = false := by
  rw [hasObservations, Bool.not_eq_true', List.all_eq_false]
  constructor
  · rintro ⟨range, mem, set⟩
    rw [Bool.not_eq_true] at set
    have range_eq : range = c.ranges.x ∨ range = c.ranges.y ∨ range = c.ranges.z := by
      simpa [Triple.toList] using mem
    rcases range_eq with rfl | rfl | rfl
    · exact ⟨.x, set⟩
    · exact ⟨.y, set⟩
    · exact ⟨.z, set⟩
  · rintro ⟨axis, set⟩
    refine ⟨c.ranges.get axis, Triple.get_mem_toList _ axis, ?_⟩
    rw [ranges, Triple.get_map, set]
    exact Bool.false_ne_true

end Calibrator

namespace Session

/-- The extrema of every axis are in order. -/
def Ordered (s : Session) : Prop := ∀ axis, (s.calibrator.get axis).range.Ordered

theorem ordered_new (sensitivity : Sensitivity) : (new sensitivity).Ordered := by
  intro axis
  rw [calibrator_new, Calibrator.get_new]
  exact Range.ordered_unset

theorem range_ingest (s : Session) (sample : Sample) (axis : Axis) :
    ((s.ingest sample).1.calibrator.get axis).range =
      (s.calibrator.get axis).range.update (sample.get axis) := by
  rw [get_ingest]
  split <;> rfl

/-- The calibration of an axis after a restore: that of a stored value if the axis
was found, and else what it was. -/
theorem get_restoredFrom (s : Session) (loaded : Except SensorError StoredOffset) (axis : Axis) :
    (s.restoredFrom loaded).calibrator.get axis =
      (s.calibrator.get axis).restore (loaded.toOption.bind fun stored => stored.get axis) := by
  cases loaded with
  | error error => rfl
  | ok stored =>
      rw [restoredFrom]
      split
      · rename_i empty
        have absent : stored.get axis = none := by
          cases found : stored.get axis with
          | none => rfl
          | some offset =>
              rw [StoredOffset.isEmpty_eq_false found] at empty
              contradiction
        simp [Except.toOption, absent, AxisCalibration.restore]
      · simp [Except.toOption]

theorem Ordered.ingest {s : Session} (ordered : s.Ordered) (sample : Sample) :
    (s.ingest sample).1.Ordered := by
  intro axis
  rw [range_ingest]
  exact (ordered axis).update _

theorem Ordered.restoredFrom {s : Session} (ordered : s.Ordered)
    (loaded : Except SensorError StoredOffset) : (s.restoredFrom loaded).Ordered := by
  intro axis
  rw [get_restoredFrom]
  exact AxisCalibration.ordered_restore (ordered axis) _

/-- A sample takes no observation away. -/
theorem Ordered.hasObservations_ingest {s : Session} (ordered : s.Ordered)
    (observed : s.calibrator.hasObservations = true) (sample : Sample) :
    (s.ingest sample).1.calibrator.hasObservations = true := by
  obtain ⟨axis, set⟩ := Calibrator.hasObservations_eq_true_iff.mp observed
  refine Calibrator.hasObservations_eq_true_iff.mpr ⟨axis, ?_⟩
  rw [range_ingest]
  exact (ordered axis).isUnset_update set _

/-- A restore takes no observation away. -/
theorem hasObservations_restoredFrom {s : Session}
    (observed : s.calibrator.hasObservations = true) (loaded : Except SensorError StoredOffset) :
    (s.restoredFrom loaded).calibrator.hasObservations = true := by
  obtain ⟨axis, set⟩ := Calibrator.hasObservations_eq_true_iff.mp observed
  refine Calibrator.hasObservations_eq_true_iff.mpr ⟨axis, ?_⟩
  rw [get_restoredFrom]
  cases loaded.toOption.bind fun stored => stored.get axis with
  | none => exact set
  | some offset => exact AxisCalibration.isUnset_seed _ _

end Session

end Magnetometer
