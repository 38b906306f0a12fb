import Magnetometer.Calibration.Calibrator
import Magnetometer.Proofs.Number.Error

/-!
# How far calibration is from exact

The offset of a range and the counts that an offset seeds, compared with the
same formulas over the rationals.  All errors of single precision together stay
below a tenth of a unit of the offset and a fortieth of a count; truncation adds
less than one of either.
-/

namespace Magnetometer

open Number Number.Single

/-! ## The scale of an axis -/

namespace Sensitivity

/-- Microtesla per count under a fuse byte, without rounding. -/
def exactScale (fuse : UInt8) : ℚ := 15 / 100 * ((128 + fuse.toNat) / 256)

theorem exactScale_bounds (fuse : UInt8) :
    75 / 1000 ≤ exactScale fuse ∧ exactScale fuse ≤ 449 / 2000 := by
  have top : (fuse.toNat : ℚ) ≤ 255 := by exact_mod_cast Nat.le_of_lt_succ fuse.toNat_lt
  have bottom : (0 : ℚ) ≤ fuse.toNat := Nat.cast_nonneg _
  unfold exactScale
  constructor <;> linarith

/-- The factor of a fuse byte is computed without error. -/
theorem near_factor (fuse : UInt8) : Near (factor fuse) ((128 + fuse.toNat) / 256) 0 := by
  have byte := fuse.toNat_lt
  unfold factor
  generalize fuse.toNat = n at *
  have dyadic : ∀ {x : ℚ} (m : Int) (j : Nat), m.natAbs < 512 → j ≤ 149 → x = m / 2 ^ j →
      Dyadic x := by
    rintro x m j small shift rfl
    exact dyadic_div (small.trans (by norm_num)) shift
  have byte_near : Near (Binary.ofInt n) n 0 := by
    exact_mod_cast exact_ofInt (show (n : Int).natAbs < 2 ^ 24 by omega)
  have middle_near : Near (Binary.ofInt 128) 128 0 := by
    exact_mod_cast exact_ofInt (show (128 : Int).natAbs < 2 ^ 24 by decide)
  have one_near : Near (Binary.ofInt 1) 1 0 := by
    exact_mod_cast exact_ofInt (show (1 : Int).natAbs < 2 ^ 24 by decide)
  have half_near : Near (Binary.ofQuotient 1 2) (((1 : Int) : ℚ) / (2 : Nat)) 0 :=
    exact_of_rounds (Binary.rounds_ofQuotient 1 two_pos)
      (dyadic 1 1 (by omega) (by norm_num) (by simp))
  have shifted := byte_near.sub_exact middle_near
    (dyadic (n - 128) 0 (by omega) (by norm_num) (by simp))
  have halved := shifted.mul_exact half_near
    (dyadic (n - 128) 1 (by omega) (by norm_num) (by push_cast; ring))
  have divided := halved.div_exact middle_near (by norm_num)
    (dyadic (n - 128) 8 (by omega) (by norm_num) (by push_cast; ring))
  have raised := divided.add_exact one_near
    (dyadic (n + 128) 8 (by omega) (by norm_num) (by push_cast; ring))
  have exact_eq : ((n : ℚ) - 128) * (((1 : Int) : ℚ) / (2 : Nat)) / 128 + 1 = (128 + n) / 256 := by
    push_cast
    ring
  rwa [← exact_eq]

theorem near_scale (fuse : UInt8) : Near (scale fuse) (exactScale fuse) (1 / 2 ^ 25) := by
  have count_near : Near microteslaPerCount (15 / 100) (roundoff (3 / 20)) :=
    near_ofQuotient (by norm_num) (by norm_num [Sound]) (by norm_num)
  have factor_le : |((128 : ℚ) + fuse.toNat) / 256| ≤ 3 / 2 := by
    have top : (fuse.toNat : ℚ) ≤ 255 := by exact_mod_cast Nat.le_of_lt_succ fuse.toNat_lt
    rw [abs_of_nonneg (by positivity)]
    linarith
  have product := count_near.mul (3 / 20) (3 / 2) (226 / 1000) (near_factor fuse)
    (by norm_num [Sound]) (by norm_num) factor_le (by norm_num [roundoff])
  exact product.mono (by norm_num [roundoff])

end Sensitivity

theorem near_microteslaPerUnit : Near microteslaPerUnit (6 / 100) (roundoff (6 / 100)) :=
  near_ofQuotient (by norm_num) (by norm_num [Sound]) (by norm_num)

theorem near_targetRange : Near targetRange 45 0 := by
  exact_mod_cast exact_ofInt (show (45 : Int).natAbs < 2 ^ 24 by decide)

namespace AxisCalibration

open Sensitivity

/-! ## The offset of a range -/

theorem abs_toInt_le (count : Int16) : |(count.toInt : ℚ)| ≤ 32768 := by
  have lower := count.le_toInt
  have upper := count.toInt_lt
  rw [abs_le]
  constructor
  · exact_mod_cast lower
  · exact_mod_cast upper.le

theorem abs_exactScale_mul_le (fuse : UInt8) (count : Int16) :
    |exactScale fuse * count.toInt| ≤ 7357 := by
  obtain ⟨lower, upper⟩ := exactScale_bounds fuse
  rw [abs_mul, abs_of_pos (by linarith)]
  calc exactScale fuse * |(count.toInt : ℚ)| ≤ 449 / 2000 * 32768 :=
        mul_le_mul upper (abs_toInt_le count) (abs_nonneg _) (by norm_num)
    _ ≤ 7357 := by norm_num

/-- The field of a count. -/
theorem near_field (fuse : UInt8) (count : Int16) :
    Near (scale fuse * Binary.ofInt count.toInt) (exactScale fuse * count.toInt) (2 / 1000) := by
  obtain ⟨lower, upper⟩ := exactScale_bounds fuse
  have count_near : Near (Binary.ofInt count.toInt) count.toInt (roundoff 32768) :=
    near_ofInt (by norm_num [Sound]) (abs_toInt_le count)
  have product := (near_scale fuse).mul (449 / 2000) 32768 7358 count_near (by norm_num [Sound])
    (by rw [abs_le]; constructor <;> linarith) (abs_toInt_le count) (by norm_num [roundoff])
  exact product.mono (by norm_num [roundoff])

/-- The offset that places a count at a target. -/
theorem near_offset {target : Single} {t : ℚ} (fuse : UInt8) (count : Int16)
    (target_near : Near target t 0) (small : |t| ≤ 45) :
    Near ((scale fuse * Binary.ofInt count.toInt + target) / microteslaPerUnit)
      ((exactScale fuse * count.toInt + t) / (6 / 100)) (57 / 1000) := by
  have field_le : |exactScale fuse * count.toInt + t| ≤ 7402 :=
    (abs_add_le _ _).trans (by linarith [abs_exactScale_mul_le fuse count])
  have sum := ((near_field fuse count).add 7403 target_near (by norm_num [Sound])
    (by linarith)).mono (f := 1 / 400) (by norm_num [roundoff])
  have quotient := sum.div 123400 (599 / 10000) 123401 near_microteslaPerUnit (by norm_num [Sound])
    (by rw [abs_div]; norm_num; linarith) (by norm_num) (by norm_num [roundoff])
    (by norm_num [roundoff])
  exact quotient.mono (by norm_num [roundoff])

/-- The offset of a range without rounding. -/
def exactOffset (fuse : UInt8) (range : Range) : ℚ :=
  exactScale fuse * (range.min.toInt + range.max.toInt) / (12 / 100)

theorem abs_exactOffset_le (fuse : UInt8) (range : Range) : |exactOffset fuse range| ≤ 122620 := by
  apply abs_div_le_of_abs_le (by norm_num)
  rw [mul_add]
  apply (abs_add_le _ _).trans
  linarith [abs_exactScale_mul_le fuse range.min, abs_exactScale_mul_le fuse range.max]

/-- The mean of the offsets of both ends. -/
theorem near_mean (fuse : UInt8) (range : Range) :
    Near ((offsetFromMin fuse range.min + offsetFromMax fuse range.max) / Binary.ofInt 2)
      (exactOffset fuse range) (1 / 10) := by
  have low_near : Near (offsetFromMin fuse range.min)
      ((exactScale fuse * range.min.toInt + 45) / (6 / 100)) (57 / 1000) :=
    near_offset fuse range.min near_targetRange (by norm_num)
  have high_near : Near (offsetFromMax fuse range.max)
      ((exactScale fuse * range.max.toInt + -45) / (6 / 100)) (57 / 1000) :=
    near_offset fuse range.max near_targetRange.neg (by norm_num)
  have two_near : Near (Binary.ofInt 2) 2 0 := by
    exact_mod_cast exact_ofInt (show (2 : Int).natAbs < 2 ^ 24 by decide)
  have sum_eq : (exactScale fuse * range.min.toInt + 45) / (6 / 100) +
      (exactScale fuse * range.max.toInt + -45) / (6 / 100) = exactOffset fuse range * 2 := by
    rw [exactOffset]
    ring
  have offset_le := abs_exactOffset_le fuse range
  have sum_le : |exactOffset fuse range * 2| ≤ 245240 := by
    rw [abs_mul]
    norm_num
    linarith
  have sum := low_near.add 245241 high_near (by norm_num [Sound]) (by rw [sum_eq]; linarith)
  rw [sum_eq] at sum
  have mean := sum.div 122620 2 122621 two_near (by norm_num [Sound])
    (by rwa [mul_div_cancel_right₀ _ two_ne_zero]) (by norm_num) (by norm_num)
    (by norm_num [roundoff])
  rw [mul_div_cancel_right₀ _ two_ne_zero] at mean
  exact mean.mono (by norm_num [roundoff])

/-- The offset of a range is the exact one but for a tenth and the truncation. -/
theorem abs_offsetOfRange_sub_lt (fuse : UInt8) (range : Range) :
    |((offsetOfRange fuse range).toInt : ℚ) - exactOffset fuse range| < 1 + 1 / 10 :=
  (near_mean fuse range).toInt32 (by linarith [abs_exactOffset_le fuse range])

/-! ## The counts that an offset seeds -/

theorem near_bias {offset : Int32} (small : |(offset.toInt : ℚ)| ≤ 40000) :
    Near (HardIronOffset.bias offset) (6 / 100 * offset.toInt) (1 / 2000) := by
  have offset_near : Near (Binary.ofInt offset.toInt) offset.toInt (roundoff 40000) :=
    near_ofInt (by norm_num [Sound]) small
  have product := near_microteslaPerUnit.mul (6 / 100) 40000 2401 offset_near (by norm_num [Sound])
    (by norm_num) small (by norm_num [roundoff])
  exact product.mono (by norm_num [roundoff])

/-- The count that an offset places at a target, without rounding. -/
def exactCount (fuse : UInt8) (target : ℚ) (offset : Int32) : ℚ :=
  (target + 6 / 100 * offset.toInt) / exactScale fuse

/-- The count that an offset places at a target is the exact one but for a
fortieth and the truncation. -/
theorem abs_toInt16_sub_lt {target : Single} {t : ℚ} (fuse : UInt8) {offset : Int32}
    (small : |(offset.toInt : ℚ)| ≤ 40000) (target_near : Near target t 0) (target_le : |t| ≤ 45) :
    |((Single.toInt16 ((target + HardIronOffset.bias offset) / scale fuse)).toInt : ℚ) -
        exactCount fuse t offset| < 1 + 1 / 40 := by
  obtain ⟨lower, upper⟩ := exactScale_bounds fuse
  have scale_pos : 0 < exactScale fuse := by linarith
  have field_le : |t + 6 / 100 * (offset.toInt : ℚ)| ≤ 2445 := by
    apply (abs_add_le _ _).trans
    rw [abs_mul]
    norm_num
    linarith
  have count_le : |exactCount fuse t offset| ≤ 32600 :=
    abs_div_le_of_abs_le scale_pos (by linarith)
  have sum := (target_near.add 2446 (near_bias small) (by norm_num [Sound])
    (by linarith)).mono (f := 7 / 10000) (by norm_num [roundoff])
  have quotient := sum.div 32600 (749 / 10000) 32601 (near_scale fuse) (by norm_num [Sound])
    count_le (by norm_num) (by rw [abs_of_pos scale_pos]; linarith) (by norm_num)
  have near : Near ((target + HardIronOffset.bias offset) / scale fuse)
      (exactCount fuse t offset) (1 / 40) :=
    quotient.mono (by norm_num [roundoff])
  exact near.toInt16 (by linarith)

theorem abs_seed_min_sub_lt (fuse : UInt8) {offset : Int32}
    (small : |(offset.toInt : ℚ)| ≤ 40000) :
    |((seed fuse offset).min.toInt : ℚ) - exactCount fuse (-45) offset| < 1 + 1 / 40 :=
  abs_toInt16_sub_lt fuse small near_targetRange.neg (by norm_num)

theorem abs_seed_max_sub_lt (fuse : UInt8) {offset : Int32}
    (small : |(offset.toInt : ℚ)| ≤ 40000) :
    |((seed fuse offset).max.toInt : ℚ) - exactCount fuse 45 offset| < 1 + 1 / 40 :=
  abs_toInt16_sub_lt fuse small near_targetRange (by norm_num)

end AxisCalibration

end Magnetometer
