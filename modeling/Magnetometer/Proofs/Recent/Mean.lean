import Magnetometer.Proofs.Recent

/-!
# The value of a ring

What a ring gives on an axis is the mean of exactly the last few samples, computed
from their exact sum.  Older samples, places that are not filled yet and the place
at which the ring stands have no part in it.
-/

namespace Magnetometer.Recent

open Number

/-- Field on an axis from the exact sum of some counts: their mean, adjusted and
freed of the bias, with every step rounded in this order. -/
def fieldOfSum (axis : AxisCalibration) (sum : Int) (number : Nat) : Single :=
  microteslaPerCount * (Binary.ofInt sum / Binary.ofInt number * Sensitivity.factor axis.fuse)
    - microteslaPerUnit * Binary.ofInt axis.offset.toInt

variable {samples : List Sample}

/-- The field of few counts is that of their exact sum. -/
theorem fieldOf?_eq_some {counts : List Int16} (begun : counts ≠ [])
    (few : counts.length ≤ exactCounts) (axis : AxisCalibration) :
    fieldOf? axis counts =
      some (fieldOfSum axis (counts.map Int16.toInt).sum counts.length) := by
  rw [fieldOf?, List.isEmpty_eq_false_iff.mpr begun, if_neg Bool.false_ne_true, sum_eq few]
  rfl

theorem fieldOf?_eq_none_iff {counts : List Int16} {axis : AxisCalibration} :
    fieldOf? axis counts = none ↔ counts = [] := by
  simp [fieldOf?]

/-- The ring holds as many samples as there are, up to its size. -/
theorem window_eq (samples : List Sample) :
    window samples = samples.rtake (min samples.length ringSize) := by
  rw [window, List.rtake, List.rtake]
  congr 1
  omega

theorem length_window (samples : List Sample) :
    (window samples).length = min samples.length ringSize := by
  rw [window, List.rtake, List.length_drop]
  omega

theorem window_eq_nil_iff : window samples = [] ↔ samples.length = 0 := by
  rw [← List.length_eq_zero_iff, length_window]
  simp [ringSize]

/-- What a ring gives on an axis after some samples: nothing before the first one,
and then the field of the exact sum of the last four, or of all as long as there are
fewer.  Any ring with the same last samples gives the same, whatever it took in
before them, wherever its next place is and whatever stood at its places at first. -/
theorem axisField?_of_recorded (samples : List Sample) (calibrator : Calibrator) (axis : Axis) :
    let number := min samples.length ringSize
    let counts := (samples.rtake number).map fun sample => (sample.get axis).toInt
    let field? := (samples.foldl record empty).axisField? calibrator axis
    (field? = none ↔ samples.length = 0) ∧
      (0 < samples.length →
        field? = some (fieldOfSum (calibrator.get axis) counts.sum number)) ∧
      ∀ (other : List Sample) (slots : Vector Sample ringSize),
        other.rtake ringSize = samples.rtake ringSize →
          (other.foldl record { empty with slots }).axisField? calibrator axis = field? := by
  intro number counts field?
  have field_eq : field? = fieldOf? (calibrator.get axis)
      ((window samples).map fun sample => sample.get axis) :=
    (holds_foldl samples).axisField?_eq calibrator axis
  refine ⟨?_, ?_, ?_⟩
  · rw [field_eq, fieldOf?_eq_none_iff, List.map_eq_nil_iff, window_eq_nil_iff]
  · intro some_sample
    have begun : ((window samples).map fun sample => sample.get axis) ≠ [] := by
      rw [ne_eq, List.map_eq_nil_iff, window_eq_nil_iff]
      exact some_sample.ne'
    have few : ((window samples).map fun sample => sample.get axis).length ≤ exactCounts := by
      rw [List.length_map, length_window]
      exact (Nat.min_le_right _ _).trans (by decide)
    rw [field_eq, fieldOf?_eq_some begun few, List.length_map, length_window, List.map_map,
      window_eq]
    rfl
  · intro other slots same
    have window_other : window other = window samples := same
    rw [(holds_foldl_of_slots slots other).axisField?_eq, window_other, field_eq]

/-- Two rings with the same last four samples, one after five and one after six
samples, so that these stand at different places. -/
theorem axisField?_of_recorded_rotated :
    let recent : List Sample := [⟨3, 0, -8⟩, ⟨-7, 1, 2⟩, ⟨32767, 5, 6⟩, ⟨12, 9, -1⟩]
    let short := (⟨900, -1, 4⟩ : Sample) :: recent
    let long : List Sample := [⟨-32768, 2, 2⟩, ⟨41, 0, 7⟩] ++ recent
    let calibrator : Calibrator := .replicate ⟨200, -750, .unset⟩
    0 < short.length ∧ long.rtake ringSize = short.rtake ringSize ∧
      (short.foldl record empty).slots ≠ (long.foldl record empty).slots ∧
      (short.foldl record empty).axisField? calibrator .x =
        some (fieldOfSum ⟨200, -750, .unset⟩ 32775 4) ∧
      (long.foldl record empty).axisField? calibrator .x =
        (short.foldl record empty).axisField? calibrator .x := by
  intro recent short long calibrator
  obtain ⟨-, mean, independent⟩ := axisField?_of_recorded short calibrator .x
  have same : long.rtake ringSize = short.rtake ringSize := rfl
  exact ⟨by decide, same, by decide, mean (by decide), independent long empty.slots same⟩

end Magnetometer.Recent
