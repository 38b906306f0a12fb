import Magnetometer.Proofs.Calibration.Returned
import Magnetometer.Proofs.Number.Calculation

/-!
# The middle of a range

The offset that is derived from a range is the one at which the fields of its two
ends are opposite, but for a tenth of a unit and the truncation.  No step on the way
overflows, since a value that is not finite would show in the result, and the
result is far from the bounds of an offset.
-/

namespace Magnetometer

open Number Number.Single Sensitivity

namespace AxisCalibration

/-- The calculation of the offset of a range, up to the truncation of its result. -/
def offsetCalculation (fuse : UInt8) (range : Range) : Calculation :=
  let difference := Calculation.apply .sub (.value (Binary.ofInt fuse.toNat))
    (.value (Binary.ofInt 128))
  let half := Calculation.apply .mul difference (.value (Binary.ofQuotient 1 2))
  let factor := Calculation.apply .add (.div half (Binary.ofInt 128)) (.value (Binary.ofInt 1))
  let scale := Calculation.apply .mul (.value microteslaPerCount) factor
  let field (count : Int16) := Calculation.apply .mul scale (.value (Binary.ofInt count.toInt))
  let fromMin := Calculation.apply .add (field range.min) (.value targetRange)
  let fromMax := Calculation.apply .sub (field range.max) (.value targetRange)
  .div (.apply .add (.div fromMin microteslaPerUnit) (.div fromMax microteslaPerUnit))
    (Binary.ofInt 2)

variable (fuse : UInt8) (range : Range)

/-- The offset of a range is the truncated result of its calculation. -/
theorem offsetOfRange_eq :
    offsetOfRange fuse range = (offsetCalculation fuse range).result.toInt32 := rfl

theorem near_result : Near (offsetCalculation fuse range).result (exactOffset fuse range) (1 / 10) :=
  near_mean fuse range

theorem isFinite_of_mem_divisors :
    ∀ divisor ∈ (offsetCalculation fuse range).divisors, divisor.isFinite = true := by
  have divisors_eq : (offsetCalculation fuse range).divisors =
      [Binary.ofInt 2, microteslaPerUnit, Binary.ofInt 128, microteslaPerUnit, Binary.ofInt 128] :=
    rfl
  rw [divisors_eq]
  decide

/-- The factor of a fuse byte, without rounding. -/
def exactFactor (fuse : UInt8) : ℚ := (fuse.toNat - 128) / 2 / 128 + 1

/-- The offset at which the fields of both ends of a range are opposite. -/
def centre (fuse : UInt8) (range : Range) : ℚ :=
  15 / 100 * exactFactor fuse * (range.min.toInt + range.max.toInt) / (12 / 100)

theorem exactOffset_eq_centre : exactOffset fuse range = centre fuse range := by
  rw [exactOffset, centre, exactScale, exactFactor]
  ring

/-- An offset that centres a range, and the way in which it was found: every value
on the way was finite, the last one was truncated without being held at a bound,
and what came of it is next to the offset at which the fields of both ends are
opposite. -/
structure Centres (fuse : UInt8) (range : Range) (offset : Int32) : Prop where
  finite : ∀ a ∈ (offsetCalculation fuse range).values, a.isFinite = true
  inside : |(offsetCalculation fuse range).result.value| < 2147483647
  truncated :
    offset.toInt = (offsetCalculation fuse range).result.units.tdiv Format.single.one
  opposite : 15 / 100 * exactFactor fuse * range.min.toInt - 6 / 100 * centre fuse range =
    -(15 / 100 * exactFactor fuse * range.max.toInt - 6 / 100 * centre fuse range)
  close : |(offset.toInt : ℚ) - centre fuse range| < 11 / 10

theorem centres_offsetOfRange : Centres fuse range (offsetOfRange fuse range) := by
  have near := near_result fuse range
  have centre_le := abs_exactOffset_le fuse range
  constructor
  case finite =>
    exact Calculation.isFinite_of_mem_values _ near.finite (isFinite_of_mem_divisors fuse range)
  case inside =>
    have result_le : |(offsetCalculation fuse range).result.value| ≤ 122621 :=
      abs_le_of_beside near.close (by linarith)
    linarith
  case truncated =>
    rw [offsetOfRange_eq]
    exact near.toInt_toInt32 (by linarith)
  case opposite =>
    rw [centre]
    ring
  case close =>
    rw [← exactOffset_eq_centre]
    calc |((offsetOfRange fuse range).toInt : ℚ) - exactOffset fuse range| < 1 + 1 / 10 :=
          abs_offsetOfRange_sub_lt fuse range
      _ = 11 / 10 := by norm_num

end AxisCalibration

namespace Calibrator

open AxisCalibration

/-- Whenever the offset is derived it centres the range of every axis. -/
theorem centres_of_deriveIfDue {c : Calibrator} {count : Nat}
    (due : (c.deriveIfDue count).2 = true) (axis : Axis) :
    Centres (c.get axis).fuse (c.get axis).range ((c.deriveIfDue count).1.get axis).offset := by
  have isDue : Calibrator.isDue count = true := by
    unfold deriveIfDue at due
    split at due
    · rename_i isDue
      exact isDue
    · contradiction
  rw [get_deriveIfDue, if_pos isDue]
  exact centres_offsetOfRange _ _

/-- The greatest counts under the greatest fuse byte, after ten samples. -/
theorem centres_of_deriveIfDue_greatest :
    let c : Calibrator := .replicate ⟨255, 0, ⟨32767, 32767⟩⟩
    (c.deriveIfDue 10).2 = true ∧ ((c.deriveIfDue 10).1.get .x).offset = 122556 ∧
      Centres 255 ⟨32767, 32767⟩ ((c.deriveIfDue 10).1.get .x).offset := by
  intro c
  have due : (c.deriveIfDue 10).2 = true := rfl
  exact ⟨due, by decide +kernel, centres_of_deriveIfDue due .x⟩

end Calibrator

end Magnetometer
