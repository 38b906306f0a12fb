import Magnetometer.Proofs.Calibration.Seed
import Mathlib.Data.Rat.Floor

/-!
# The offset that an offset gives back

An offset seeds two counts, and these give an offset back.  Every conversion to
an integer truncates, so what comes back is not quite what was given: it is at
most four units away.  Truncation goes toward zero, and so does the way there and
back, but for the first few units: less than four units behind every offset is a
barrier that offsets before it do not get across.
-/

namespace Magnetometer

open Number Number.Single

namespace Number.Single

/-- An integer that truncation can make of a value near to a number. -/
structure Truncates (error x : ℚ) (n : Int) : Prop where
  close : |(n : ℚ) - x| < 1 + error
  below : 0 < n → (n : ℚ) ≤ x + error
  above : n < 0 → x - error ≤ n

/-- Truncation treats both signs alike. -/
theorem Truncates.neg {error x : ℚ} {n : Int} (truncates : Truncates error x n) :
    Truncates error (-x) (-n) := by
  constructor
  case close =>
    rw [Int.cast_neg, neg_sub_neg, abs_sub_comm]
    exact truncates.close
  case below =>
    intro positive
    have bound := truncates.above (by omega)
    rw [Int.cast_neg]
    linarith
  case above =>
    intro negative
    have bound := truncates.below (by omega)
    rw [Int.cast_neg]
    linarith

/-- Truncation goes toward zero. -/
theorem Truncates.abs_le {error x : ℚ} {n : Int} (truncates : Truncates error x n)
    (nonneg : 0 ≤ error) : |(n : ℚ)| ≤ |x| + error := by
  rcases lt_trichotomy n 0 with negative | rfl | positive
  · have above := truncates.above negative
    rw [abs_of_neg (by exact_mod_cast negative)]
    linarith [neg_le_abs x]
  · rw [Int.cast_zero, abs_zero]
    exact add_nonneg (abs_nonneg x) nonneg
  · have below := truncates.below positive
    rw [abs_of_pos (by exact_mod_cast positive)]
    linarith [le_abs_self x]

/-- A quotient that truncates to something positive is not below it. -/
theorem tdiv_le_of_pos {n : Int} {d : Nat} (pos : 0 < d) (positive : 0 < n.tdiv d) :
    ((n.tdiv d : Int) : ℚ) ≤ n / d := by
  have pos' : (0 : ℚ) < d := by exact_mod_cast pos
  have split := Int.mul_tdiv_add_tmod n d
  have numerator_pos : 0 < n := by
    by_contra negative
    have mirrored := Int.tdiv_nonneg (show 0 ≤ -n by omega) (show (0 : Int) ≤ d by omega)
    rw [Int.neg_tdiv] at mirrored
    omega
  have rest := Int.tmod_nonneg (d : Int) numerator_pos.le
  rw [le_div_iff₀ pos']
  have product_le : n.tdiv d * (d : Int) ≤ n := by
    rw [mul_comm]
    omega
  exact_mod_cast product_le

/-- A quotient that truncates to something negative is not above it. -/
theorem le_tdiv_of_neg {n : Int} {d : Nat} (pos : 0 < d) (negative : n.tdiv d < 0) :
    (n : ℚ) / d ≤ ((n.tdiv d : Int) : ℚ) := by
  have mirrored := @tdiv_le_of_pos (-n) d pos (by rw [Int.neg_tdiv]; omega)
  rw [Int.neg_tdiv, Int.cast_neg, Int.cast_neg, neg_div] at mirrored
  linarith

variable {a : Single} {x error : ℚ}

/-- The integer part of a value near to a number. -/
theorem Near.truncates (near : Near a x error) :
    Truncates error x (a.units.tdiv Format.single.one) := by
  have one_pos := Format.single.one_pos
  obtain ⟨left, right⟩ := abs_le.mp near.close
  constructor
  case close =>
    have whole : |((a.units.tdiv Format.single.one : Int) : ℚ) - a.value| < 1 :=
      abs_tdiv_sub_lt one_pos
    calc |((a.units.tdiv Format.single.one : Int) : ℚ) - x|
        ≤ |((a.units.tdiv Format.single.one : Int) : ℚ) - a.value| + |a.value - x| :=
          abs_sub_le _ _ _
      _ < 1 + error := add_lt_add_of_lt_of_le whole near.close
  case below =>
    intro positive
    have bound : ((a.units.tdiv Format.single.one : Int) : ℚ) ≤ a.value :=
      tdiv_le_of_pos one_pos positive
    linarith
  case above =>
    intro negative
    have bound : a.value ≤ ((a.units.tdiv Format.single.one : Int) : ℚ) :=
      le_tdiv_of_neg one_pos negative
    linarith

/-- The conversion to a count is not held at a bound: a wider integer would be the
same. -/
def FitsInt16 (a : Single) : Prop := a.toInt16.toInt = a.toInt32.toInt

instance (a : Single) : Decidable a.FitsInt16 :=
  inferInstanceAs (Decidable (a.toInt16.toInt = a.toInt32.toInt))

theorem toInt_toInt32 (finite : a.isFinite = true) :
    a.toInt32.toInt = a.truncate (-2147483648) 2147483647 := by
  have inside : a.truncate (-2147483648) 2147483647 =
      max (-2147483648) (min 2147483647 (a.units.tdiv Format.single.one)) := truncate_eq finite
  exact Int32.toInt_ofInt_of_le (by omega) (by omega)

theorem FitsInt16.toInt_eq (fits : a.FitsInt16) (finite : a.isFinite = true) :
    a.toInt16.toInt = a.units.tdiv Format.single.one := by
  unfold FitsInt16 at fits
  rw [toInt_toInt16 finite, toInt_toInt32 finite, truncate_eq finite, truncate_eq finite] at fits
  rw [toInt_toInt16 finite, truncate_eq finite]
  omega

/-- A value that is converted to a count as it is. -/
theorem FitsInt16.truncates (fits : a.FitsInt16) (near : Near a x error) :
    Truncates error x a.toInt16.toInt := by
  rw [fits.toInt_eq near.finite]
  exact near.truncates

/-- Only values next to the counts are converted as they are. -/
theorem FitsInt16.abs_value_lt (fits : a.FitsInt16) (finite : a.isFinite = true) :
    |a.value| < 32769 := by
  have close := abs_lt.mp (fits.truncates (near_self finite)).close
  have count := abs_le.mp (AxisCalibration.abs_toInt_le a.toInt16)
  rw [abs_lt]
  constructor <;> linarith

/-- A value far from the bounds is converted to a wide integer as it is. -/
theorem Near.toInt_toInt32 (near : Near a x error) (small : |x| + error ≤ 2147483646) :
    a.toInt32.toInt = a.units.tdiv Format.single.one := by
  obtain ⟨left, right⟩ := abs_lt.mp near.truncates.close
  obtain ⟨lower, upper⟩ := abs_le.mp (show |x| ≤ 2147483646 - error by linarith)
  have above : -2147483648 ≤ a.units.tdiv Format.single.one := by
    have bound : (-2147483648 : ℚ) ≤ (a.units.tdiv Format.single.one : Int) := by linarith
    exact_mod_cast bound
  have below : a.units.tdiv Format.single.one ≤ 2147483647 := by
    have bound : ((a.units.tdiv Format.single.one : Int) : ℚ) ≤ 2147483647 := by linarith
    exact_mod_cast bound
  rw [Single.toInt_toInt32 near.finite, truncate_eq near.finite, min_eq_right below,
    max_eq_right above]

theorem Near.truncates_toInt32 (near : Near a x error) (small : |x| + error ≤ 2147483646) :
    Truncates error x a.toInt32.toInt := by
  rw [near.toInt_toInt32 small]
  exact near.truncates

end Number.Single

namespace AxisCalibration

open Sensitivity

variable {fuse : UInt8} {offset : Int32}

/-! ## Seeds that are counts -/

/-- The value that is truncated to the count that an offset places at a target. -/
def countValue (fuse : UInt8) (target : Single) (offset : Int32) : Single :=
  (target + HardIronOffset.bias offset) / scale fuse

/-- The seeds of an offset are set, and neither is held at a bound. -/
structure Fits (fuse : UInt8) (offset : Int32) : Prop where
  minSet : (seed fuse offset).min ≠ 0
  maxSet : (seed fuse offset).max ≠ 0
  minFits : (countValue fuse (-targetRange) offset).FitsInt16
  maxFits : (countValue fuse targetRange offset).FitsInt16

instance (fuse : UInt8) (offset : Int32) : Decidable (Fits fuse offset) :=
  decidable_of_iff
    (((seed fuse offset).min ≠ 0 ∧ (seed fuse offset).max ≠ 0) ∧
      (countValue fuse (-targetRange) offset).FitsInt16 ∧
      (countValue fuse targetRange offset).FitsInt16)
    ⟨fun h => ⟨h.1.1, h.1.2, h.2.1, h.2.2⟩, fun h => ⟨⟨h.1, h.2⟩, h.3, h.4⟩⟩

/-- Only an offset that is not too large seeds a count that is not held at a
bound, and the field of that count is not too large either. -/
theorem bounds_of_fitsInt16 {target : Single} {t : ℚ} (target_near : Near target t 0)
    (target_le : |t| ≤ 45) (fits : (countValue fuse target offset).FitsInt16) :
    |(offset.toInt : ℚ)| ≤ 141000 ∧
      |(target + HardIronOffset.bias offset).value| ≤ 32873 * (scale fuse).value := by
  obtain ⟨finite, bias_le⟩ := abs_value_bias_le offset
  obtain ⟨lower, upper⟩ := value_scale_bounds fuse
  have scale_pos : 0 < (scale fuse).value := by linarith
  have exact_le : |t + (HardIronOffset.bias offset).value| ≤ 130000045 :=
    (abs_add_le _ _).trans (by linarith)
  have sum := (target_near.add 130000045 (near_self finite) (by norm_num [Sound])
    (by rwa [add_zero, add_zero])).mono (f := 8) (by norm_num [roundoff])
  have count := near_div_scale fuse sum.finite (abs_le_of_beside sum.close (by linarith))
  have count_lt : |((target + HardIronOffset.bias offset) / scale fuse).value| < 32769 :=
    fits.abs_value_lt count.finite
  have countClose := count.close
  rw [abs_sub_comm] at countClose
  have quotient_le :
      |(target + HardIronOffset.bias offset).value / (scale fuse).value| ≤ 32873 :=
    abs_le_of_beside countClose (by linarith)
  rw [abs_div, abs_of_pos scale_pos, div_le_iff₀ scale_pos] at quotient_le
  refine ⟨?_, quotient_le⟩
  have biasClose := abs_le.mp (near_bias_of_any offset).1.close
  have sumClose := abs_le.mp sum.close
  have fieldLe := abs_le.mp quotient_le
  have targetLe := abs_le.mp target_le
  rw [abs_le]
  constructor <;> linarith

/-- A seed that is not held at a bound comes from a value near to the exact count. -/
theorem near_countValue {target : Single} {t : ℚ} (target_near : Near target t 0)
    (target_le : |t| ≤ 45) (fits : (countValue fuse target offset).FitsInt16) :
    Near (countValue fuse target offset) (exactCount fuse t offset) (1 / 25) := by
  obtain ⟨offset_le, field_le⟩ := bounds_of_fitsInt16 target_near target_le fits
  obtain ⟨lower, upper⟩ := exactScale_bounds fuse
  have scale_pos : 0 < exactScale fuse := by linarith
  have scaleClose := abs_le.mp (near_scale fuse).close
  have short : offset.toInt.natAbs < 2 ^ 24 := by
    have offset_le' : |offset.toInt| ≤ 141000 := by exact_mod_cast offset_le
    rw [abs_le] at offset_le'
    omega
  have bias := (near_microteslaPerUnit.mul (6 / 100) 141000 8461 (exact_ofInt short)
    (by norm_num [Sound]) (by norm_num) offset_le (by norm_num [roundoff])).mono (f := 11 / 10000)
    (by norm_num [roundoff])
  have exact_le : |t + 6 / 100 * (offset.toInt : ℚ)| ≤ 8505 := by
    apply (abs_add_le _ _).trans
    rw [abs_mul]
    norm_num
    linarith
  have sum := (target_near.add 8506 bias (by norm_num [Sound]) (by linarith)).mono
    (f := 17 / 10000) (by norm_num [roundoff])
  have count_le : |exactCount fuse t offset| ≤ 32874 := by
    apply abs_div_le_of_abs_le scale_pos
    refine abs_le_of_beside (f := 17 / 10000) (y := (target + HardIronOffset.bias offset).value)
      ?_ (by linarith)
    rw [abs_sub_comm]
    exact sum.close
  have quotient := sum.div 32874 (749 / 10000) 32875 (near_scale fuse) (by norm_num [Sound])
    count_le (by norm_num) (by rw [abs_of_pos scale_pos]; linarith) (by norm_num)
  exact quotient.mono (by norm_num [roundoff])

theorem Fits.truncates_min (fits : Fits fuse offset) :
    Truncates (1 / 25) (exactCount fuse (-45) offset) (seed fuse offset).min.toInt :=
  fits.minFits.truncates (near_countValue near_targetRange.neg (by norm_num) fits.minFits)

theorem Fits.truncates_max (fits : Fits fuse offset) :
    Truncates (1 / 25) (exactCount fuse 45 offset) (seed fuse offset).max.toInt :=
  fits.maxFits.truncates (near_countValue near_targetRange (by norm_num) fits.maxFits)

/-! ## One way there and back -/

/-- The offset of the range that an offset seeds. -/
def returned (fuse : UInt8) (offset : Int32) : Int32 := offsetOfRange fuse (seed fuse offset)

theorem truncates_offsetOfRange (fuse : UInt8) (range : Range) :
    Truncates (1 / 10) (exactOffset fuse range) (offsetOfRange fuse range).toInt :=
  (near_mean fuse range).truncates_toInt32 (by linarith [abs_exactOffset_le fuse range])

/-- The field of a count that a target was truncated to. -/
theorem abs_field_sub_lt {t : ℚ} {count : Int16}
    (truncates : Truncates (1 / 25) (exactCount fuse t offset) count.toInt) :
    |exactScale fuse * count.toInt - (t + 6 / 100 * offset.toInt)| < 117 / 500 := by
  obtain ⟨lower, upper⟩ := exactScale_bounds fuse
  have scale_pos : 0 < exactScale fuse := by linarith
  have field_eq : exactScale fuse * count.toInt - (t + 6 / 100 * offset.toInt) =
      exactScale fuse * (count.toInt - exactCount fuse t offset) := by
    rw [exactCount, mul_sub, mul_div_cancel₀ _ scale_pos.ne']
  rw [field_eq, abs_mul, abs_of_pos scale_pos]
  calc exactScale fuse * |(count.toInt : ℚ) - exactCount fuse t offset|
      ≤ 449 / 2000 * (1 + 1 / 25) :=
        mul_le_mul upper truncates.close.le (abs_nonneg _) (by norm_num)
    _ < 117 / 500 := by norm_num

/-- What an offset gives back is at most four units away. -/
theorem Fits.abs_returned_sub_le (fits : Fits fuse offset) :
    |(returned fuse offset).toInt - offset.toInt| ≤ 4 := by
  have close := abs_lt.mp (truncates_offsetOfRange fuse (seed fuse offset)).close
  have low := abs_lt.mp (abs_field_sub_lt fits.truncates_min)
  have high := abs_lt.mp (abs_field_sub_lt fits.truncates_max)
  rw [exactOffset] at close
  have near : |((returned fuse offset).toInt : ℚ) - offset.toInt| < 5 := by
    rw [abs_lt]
    unfold returned
    constructor <;> linarith
  have whole : |(returned fuse offset).toInt - offset.toInt| < 5 := by exact_mod_cast near
  omega

/-! ## The sum of the seeds

The offset of a range depends on the sum of its two counts only.  Two counts as
far from each other as the targets, both truncated toward zero, sum up to no more
than twice the number in their middle, unless the greater one is next to an
integer. -/

/-- No integer is next to the number that is `reach` above half the sum. -/
def Clear (reach : ℚ) (sum : Int) : Prop :=
  ∀ n : Int, 3 / 25 < |(n : ℚ) - (sum / 2 + reach)|

/-- Of two successive sums one is clear of integers. -/
theorem clear_or_clear_succ (reach : ℚ) (sum : Int) : Clear reach sum ∨ Clear reach (sum + 1) := by
  by_contra neither
  rw [not_or] at neither
  unfold Clear at neither
  push Not at neither
  obtain ⟨⟨n, n_close⟩, ⟨m, m_close⟩⟩ := neither
  have nClose := abs_le.mp n_close
  have mClose := abs_le.mp m_close
  push_cast at mClose
  have positive : (0 : ℚ) < (m - n : Int) := by push_cast; linarith
  have small : ((m - n : Int) : ℚ) < 1 := by push_cast; linarith
  have positive' : 0 < m - n := by exact_mod_cast positive
  have small' : m - n < 1 := by exact_mod_cast small
  omega

theorem sum_le_of_clear {centre reach : ℚ} {min max sum : Int}
    (low : Truncates (1 / 25) (centre - reach) min)
    (high : Truncates (1 / 25) (centre + reach) max) (ordered : min ≤ max) (nonneg : 0 ≤ sum)
    (clear : Clear reach sum) (centre_le : centre ≤ sum / 2 + 2 / 25) : min + max ≤ sum := by
  by_cases maxPos : 0 < max
  · have max_le := high.below maxPos
    have total_lt : ((min + max : Int) : ℚ) < (sum + 1 : Int) := by
      push_cast
      by_cases minPos : 0 < min
      · -- Both counts are rounded down.
        have min_le := low.below minPos
        linarith
      · -- The least count is rounded up, but the greatest one is rounded down by more.
        have min_lt := (abs_lt.mp low.close).2
        rcases lt_abs.mp (clear max) with beyond | before
        · linarith
        · linarith
    have total_lt' : min + max < sum + 1 := by exact_mod_cast total_lt
    omega
  · omega

/-- Counts around a number near to zero have a sum near to zero. -/
theorem abs_sum_le_of_clear {centre reach : ℚ} {min max sum : Int}
    (low : Truncates (1 / 25) (centre - reach) min)
    (high : Truncates (1 / 25) (centre + reach) max) (ordered : min ≤ max) (nonneg : 0 ≤ sum)
    (clear : Clear reach sum) (centre_le : |centre| ≤ sum / 2 + 2 / 25) : |min + max| ≤ sum := by
  obtain ⟨left, right⟩ := abs_le.mp centre_le
  have upper := sum_le_of_clear low high ordered nonneg clear right
  have mirroredLow : Truncates (1 / 25) (-centre - reach) (-max) := by
    rw [← neg_add']
    exact high.neg
  have mirroredHigh : Truncates (1 / 25) (-centre + reach) (-min) := by
    rw [neg_add_eq_sub, ← neg_sub]
    exact low.neg
  have lower :=
    sum_le_of_clear mirroredLow mirroredHigh (neg_le_neg ordered) nonneg clear (by linarith)
  rw [abs_le]
  constructor <;> linarith

/-- A distance from zero that no way there and back exceeds: that of the offset of
a sum of counts which is clear of integers. -/
def Barrier (fuse : UInt8) (bound : ℚ) : Prop :=
  ∃ sum : Int, 0 ≤ sum ∧ Clear (45 / exactScale fuse) sum ∧
    bound = exactScale fuse / (12 / 100) * sum + 1 / 10

/-- There is a barrier less than four units behind every offset. -/
theorem exists_barrier (fuse : UInt8) (offset : Int32) :
    ∃ bound, Barrier fuse bound ∧ |(offset.toInt : ℚ)| ≤ bound ∧
      bound < |(offset.toInt : ℚ)| + 4 := by
  obtain ⟨lower, upper⟩ := exactScale_bounds fuse
  have scale_pos : 0 < exactScale fuse := by linarith
  have unit_pos : 0 < exactScale fuse / (12 / 100) := by positivity
  have unit_le : exactScale fuse / (12 / 100) ≤ 15 / 8 := by
    rw [div_le_iff₀ (by norm_num)]
    linarith
  have distance := abs_nonneg (offset.toInt : ℚ)
  generalize |(offset.toInt : ℚ)| = d at distance ⊢
  unfold Barrier
  generalize exactScale fuse / (12 / 100) = unit at unit_pos unit_le ⊢
  have enough : d ≤ unit * ⌈d / unit⌉ := by
    rw [← div_le_iff₀' unit_pos]
    exact Int.le_ceil _
  have fewer : unit * ⌈d / unit⌉ < d + unit := by
    have ceil_lt := mul_lt_mul_of_pos_left (Int.ceil_lt_add_one (d / unit)) unit_pos
    rwa [mul_add, mul_one, mul_div_cancel₀ _ unit_pos.ne'] at ceil_lt
  have nonneg : 0 ≤ ⌈d / unit⌉ := Int.ceil_nonneg (by positivity)
  rcases clear_or_clear_succ (45 / exactScale fuse) ⌈d / unit⌉ with clear | clear
  · refine ⟨_, ⟨_, nonneg, clear, rfl⟩, ?_, ?_⟩
    · linarith
    · linarith
  · refine ⟨_, ⟨_, by omega, clear, rfl⟩, ?_, ?_⟩
    · push_cast
      linarith
    · push_cast
      linarith

/-- An offset before a barrier gives back one before it. -/
theorem Fits.abs_returned_le (fits : Fits fuse offset) {bound : ℚ} (barrier : Barrier fuse bound)
    (within : |(offset.toInt : ℚ)| ≤ bound) : |((returned fuse offset).toInt : ℚ)| ≤ bound := by
  obtain ⟨sum, nonneg, clear, rfl⟩ := barrier
  obtain ⟨lower, upper⟩ := exactScale_bounds fuse
  have scale_pos : 0 < exactScale fuse := by linarith
  have low_eq : exactCount fuse (-45) offset =
      6 / 100 * offset.toInt / exactScale fuse - 45 / exactScale fuse := by
    rw [exactCount]
    ring
  have high_eq : exactCount fuse 45 offset =
      6 / 100 * offset.toInt / exactScale fuse + 45 / exactScale fuse := by
    rw [exactCount]
    ring
  have centre_le : |6 / 100 * offset.toInt / exactScale fuse| ≤ (sum : ℚ) / 2 + 2 / 25 := by
    apply abs_div_le_of_abs_le scale_pos
    rw [abs_mul]
    norm_num
    nlinarith
  have low := fits.truncates_min
  have high := fits.truncates_max
  rw [low_eq] at low
  rw [high_eq] at high
  have total := abs_sum_le_of_clear low high
    (Int16.le_iff_toInt_le.mp (seed_ordered fuse offset)) nonneg clear centre_le
  have exact_le : |exactOffset fuse (seed fuse offset)| ≤ exactScale fuse / (12 / 100) * sum := by
    have total_le : |((seed fuse offset).min.toInt : ℚ) + (seed fuse offset).max.toInt| ≤ sum := by
      exact_mod_cast total
    rw [exactOffset, mul_div_right_comm, abs_mul, abs_of_pos (by positivity)]
    exact mul_le_mul_of_nonneg_left total_le (by positivity)
  calc |((returned fuse offset).toInt : ℚ)|
      ≤ |exactOffset fuse (seed fuse offset)| + 1 / 10 :=
        (truncates_offsetOfRange fuse (seed fuse offset)).abs_le (by norm_num)
    _ ≤ exactScale fuse / (12 / 100) * sum + 1 / 10 := add_le_add_left exact_le _

end AxisCalibration

end Magnetometer
