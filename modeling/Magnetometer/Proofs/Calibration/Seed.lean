import Magnetometer.Proofs.Calibration.Accuracy

/-!
# The seeds of any offset

Whatever offset is restored, also one so large that its seeds saturate, the seed
of the least count is not above the seed of the greatest one, and they are not
both zero.  A bound on rounding errors does here what monotonicity of rounding
would do: the two targets are farther apart than all errors together.
-/

namespace Magnetometer

open Number Number.Single

namespace Number.Single

variable {a b : Single} {lower upper : Int}

/-- A finite value is near to the number that it stands for. -/
theorem near_self (finite : a.isFinite = true) : Near a a.value 0 :=
  ⟨finite, by rw [sub_self, abs_zero]⟩

theorem truncate_le_truncate (finiteA : a.isFinite = true) (finiteB : b.isFinite = true)
    (le : a.value ≤ b.value) : a.truncate lower upper ≤ b.truncate lower upper := by
  have one_pos : (0 : ℚ) < Format.single.one := by exact_mod_cast Format.single.one_pos
  have units_le : a.units ≤ b.units := by
    unfold Binary.value at le
    exact_mod_cast (div_le_div_iff_of_pos_right one_pos).mp le
  rw [truncate_eq finiteA, truncate_eq finiteB]
  have whole_le : a.units.tdiv Format.single.one ≤ b.units.tdiv Format.single.one :=
    Int.tdiv_le_tdiv (by exact_mod_cast Format.single.one_pos) units_le
  exact max_le_max le_rfl (min_le_min le_rfl whole_le)

theorem toInt_toInt16 (finite : a.isFinite = true) :
    a.toInt16.toInt = a.truncate (-32768) 32767 := by
  have inside : a.truncate (-32768) 32767 =
      max (-32768) (min 32767 (a.units.tdiv Format.single.one)) := truncate_eq finite
  exact Int16.toInt_ofInt_of_le (by omega) (by omega)

/-- The larger of two values truncates to the larger count. -/
theorem toInt16_le_toInt16 (finiteA : a.isFinite = true) (finiteB : b.isFinite = true)
    (le : a.value ≤ b.value) : a.toInt16 ≤ b.toInt16 := by
  rw [Int16.le_iff_toInt_le, toInt_toInt16 finiteA, toInt_toInt16 finiteB]
  exact truncate_le_truncate finiteA finiteB le

/-- Only values less than one away from zero truncate to zero. -/
theorem abs_value_lt_of_toInt16_eq_zero (finite : a.isFinite = true) (zero : a.toInt16 = 0) :
    |a.value| < 1 := by
  have truncated : max (-32768) (min 32767 (a.units.tdiv Format.single.one)) = 0 := by
    rw [← truncate_eq finite, ← toInt_toInt16 finite, zero]
    rfl
  have whole : a.units.tdiv Format.single.one = 0 := by omega
  have close : |((a.units.tdiv Format.single.one : Int) : ℚ) - a.value| < 1 :=
    abs_tdiv_sub_lt Format.single.one_pos
  rwa [whole, Int.cast_zero, zero_sub, abs_neg] at close

end Number.Single

namespace AxisCalibration

open Sensitivity

/-- The bias of any offset, however large. -/
theorem near_bias_of_any (offset : Int32) :
    Near (HardIronOffset.bias offset) (6 / 100 * offset.toInt) 1000 ∧
      |(offset.toInt : ℚ)| ≤ 2 ^ 31 := by
  have offset_le : |(offset.toInt : ℚ)| ≤ 2 ^ 31 := by
    have lower := offset.le_toInt
    have upper := offset.toInt_lt
    rw [abs_le]
    constructor
    · exact_mod_cast lower
    · exact_mod_cast upper.le
  have offset_near : Near (Binary.ofInt offset.toInt) offset.toInt (roundoff (2 ^ 31)) :=
    near_ofInt (by norm_num [Sound]) offset_le
  have product := near_microteslaPerUnit.mul (6 / 100) (2 ^ 31) 130000000 offset_near
    (by norm_num [Sound]) (by norm_num) offset_le (by norm_num [roundoff])
  exact ⟨product.mono (by norm_num [roundoff]), offset_le⟩

/-- The bias of any offset is finite and far from the largest value. -/
theorem abs_value_bias_le (offset : Int32) :
    (HardIronOffset.bias offset).isFinite = true ∧
      |(HardIronOffset.bias offset).value| ≤ 130000000 := by
  obtain ⟨near, offset_le⟩ := near_bias_of_any offset
  refine ⟨near.finite, abs_le_of_beside near.close ?_⟩
  rw [abs_mul]
  norm_num
  linarith

/-- The scale of an axis as the number that it stands for. -/
theorem value_scale_bounds (fuse : UInt8) :
    749 / 10000 ≤ (scale fuse).value ∧ (scale fuse).value ≤ 2246 / 10000 := by
  obtain ⟨lower, upper⟩ := exactScale_bounds fuse
  obtain ⟨below, above⟩ := abs_le.mp (near_scale fuse).close
  constructor <;> linarith

/-- Dividing a field by the scale of an axis. -/
theorem near_div_scale (fuse : UInt8) {field : Single} (finite : field.isFinite = true)
    (small : |field.value| ≤ 130000110) :
    Near (field / scale fuse) (field.value / (scale fuse).value) 104 := by
  obtain ⟨lower, upper⟩ := value_scale_bounds fuse
  have scale_pos : 0 < (scale fuse).value := by linarith
  have count_le : |field.value / (scale fuse).value| ≤ 1736000000 :=
    abs_div_le_of_abs_le scale_pos (by linarith)
  have quotient := (near_self finite).div 1736000000 (749 / 10000) 1736000000
    (near_self (near_scale fuse).finite) (by norm_num [Sound]) count_le (by norm_num)
    (by rw [abs_of_pos scale_pos]; linarith) (by norm_num)
  exact quotient.mono (by norm_num [roundoff])

/-- The numbers that are truncated to the two seeds are more than two apart. -/
theorem value_add_two_le (fuse : UInt8) (offset : Int32) :
    ((-targetRange + HardIronOffset.bias offset) / scale fuse).isFinite = true ∧
      ((targetRange + HardIronOffset.bias offset) / scale fuse).isFinite = true ∧
      ((-targetRange + HardIronOffset.bias offset) / scale fuse).value + 2 ≤
        ((targetRange + HardIronOffset.bias offset) / scale fuse).value := by
  obtain ⟨finite, bias_le⟩ := abs_value_bias_le offset
  obtain ⟨lower, upper⟩ := value_scale_bounds fuse
  obtain ⟨bias_lower, bias_upper⟩ := abs_le.mp bias_le
  have scale_pos : 0 < (scale fuse).value := by linarith
  have low := (near_targetRange.neg.add 130000045 (near_self finite) (by norm_num [Sound])
    (by rw [add_zero, add_zero, abs_le]; constructor <;> linarith)).mono (f := 39 / 5)
    (by norm_num [roundoff])
  have high := (near_targetRange.add 130000045 (near_self finite) (by norm_num [Sound])
    (by rw [add_zero, add_zero, abs_le]; constructor <;> linarith)).mono (f := 39 / 5)
    (by norm_num [roundoff])
  obtain ⟨low_lower, low_upper⟩ := abs_le.mp low.close
  obtain ⟨high_lower, high_upper⟩ := abs_le.mp high.close
  have lowCount := near_div_scale fuse low.finite (by rw [abs_le]; constructor <;> linarith)
  have highCount := near_div_scale fuse high.finite (by rw [abs_le]; constructor <;> linarith)
  refine ⟨lowCount.finite, highCount.finite, ?_⟩
  have apart : 331 ≤ (targetRange + HardIronOffset.bias offset).value / (scale fuse).value -
      (-targetRange + HardIronOffset.bias offset).value / (scale fuse).value := by
    rw [← sub_div, le_div_iff₀ scale_pos]
    linarith
  have lowClose := abs_le.mp lowCount.close
  have highClose := abs_le.mp highCount.close
  linarith

/-- The seeds of an offset are in order. -/
theorem seed_ordered (fuse : UInt8) (offset : Int32) :
    (seed fuse offset).min ≤ (seed fuse offset).max := by
  obtain ⟨finiteLow, finiteHigh, apart⟩ := value_add_two_le fuse offset
  exact toInt16_le_toInt16 finiteLow finiteHigh (by linarith)

/-- An offset seeds at least one extremum. -/
theorem isUnset_seed (fuse : UInt8) (offset : Int32) : (seed fuse offset).isUnset = false := by
  obtain ⟨finiteLow, finiteHigh, apart⟩ := value_add_two_le fuse offset
  by_contra unset
  rw [Bool.not_eq_false, Range.isUnset, Bool.and_eq_true, beq_iff_eq, beq_iff_eq] at unset
  have low := abs_lt.mp (abs_value_lt_of_toInt16_eq_zero finiteLow unset.1)
  have high := abs_lt.mp (abs_value_lt_of_toInt16_eq_zero finiteHigh unset.2)
  linarith

end AxisCalibration

end Magnetometer
