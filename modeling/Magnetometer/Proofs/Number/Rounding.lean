import Magnetometer.Number.Binary
import Mathlib.Algebra.Order.Field.Basic
import Mathlib.Data.Nat.Cast.Order.Field
import Mathlib.Data.Rat.Cast.Order
import Mathlib.Tactic.Linarith
import Mathlib.Tactic.NormNum
import Mathlib.Tactic.Positivity
import Mathlib.Tactic.Ring

/-!
# The error of a rounding

A magnitude code is a step count in some binade, so the value nearest to a
quotient misses it by at most half a step.  A step is one unit, or as many units
as there are in the quotient over the codes of a binade; either way the error is
a fixed fraction of every bound on the quotient that is not tiny.
-/

namespace Magnetometer.Number

/-- Powers of two with their names written out. -/
theorem twoTo_eq (exponent : Nat) : twoTo exponent = 2 ^ exponent := rfl

theorem twoTo_add (m n : Nat) : twoTo (m + n) = twoTo m * twoTo n := by
  rw [twoTo_eq, twoTo_eq, twoTo_eq, pow_add]

namespace Format

variable (format : Format)

theorem binade_pos : 0 < format.binade := twoTo_pos _

theorem one_pos : 0 < format.one := twoTo_pos _

/-- A number of steps in a binade stands for that many units times the width of
the steps there. -/
theorem unitsOfCode_add {k steps : Nat} (fits : steps ≤ 2 * format.binade)
    (normal : k = 0 ∨ format.binade ≤ steps) :
    format.unitsOfCode (k * format.binade + steps) = steps * twoTo k := by
  have pos := format.binade_pos
  unfold unitsOfCode
  generalize format.binade = b at *
  by_cases small : steps < b
  · obtain rfl : k = 0 := normal.resolve_right (Nat.not_le.mpr small)
    rw [Nat.zero_mul, Nat.zero_add, if_pos small, twoTo_zero, Nat.mul_one]
  · obtain ⟨rest, rfl⟩ := Nat.exists_eq_add_of_le (Nat.le_of_not_lt small)
    have code_eq : k * b + (b + rest) = rest + b * (k + 1) := by ring
    rw [if_neg (by rw [code_eq]; nlinarith), code_eq, Nat.add_mul_mod_self_left,
      Nat.add_mul_div_left _ _ pos]
    rcases Nat.lt_or_eq_of_le (show rest ≤ b by omega) with inside | rfl
    · rw [Nat.mod_eq_of_lt inside, Nat.div_eq_of_lt inside, Nat.zero_add, Nat.add_sub_cancel]
    · rw [Nat.mod_self, Nat.div_self pos, Nat.add_comm 1, Nat.add_sub_cancel, twoTo_succ]
      ring

variable {format} {n d : Nat}

/-- The steps of a quotient do not fill more than two binades. -/
theorem div_lt_of_stepExponent :
    n / d < twoTo (format.stepExponent n d) * (2 * format.binade) := by
  have below : n / d < 2 ^ ((n / d).log2 + 1) := Nat.lt_log2_self
  have exponent : (n / d).log2 + 1 ≤
      format.stepExponent n d + 1 + (format.precision - 1) := by
    unfold stepExponent
    omega
  calc n / d < 2 ^ ((n / d).log2 + 1) := below
    _ ≤ 2 ^ (format.stepExponent n d + 1 + (format.precision - 1)) :=
      Nat.pow_le_pow_right (by decide) exponent
    _ = twoTo (format.stepExponent n d) * (2 * format.binade) := by
      rw [binade, twoTo_eq, twoTo_eq]
      ring

/-- Steps wider than a unit leave a whole binade below the quotient. -/
theorem le_div_of_stepExponent (wide : format.stepExponent n d ≠ 0) :
    twoTo (format.stepExponent n d) * format.binade ≤ n / d := by
  have exponent : format.stepExponent n d + (format.precision - 1) = (n / d).log2 := by
    unfold stepExponent at wide ⊢
    omega
  have nonzero : n / d ≠ 0 := by
    intro zero
    rw [stepExponent, zero] at wide
    exact wide (Nat.zero_sub _)
  rw [binade, ← twoTo_add, exponent]
  exact Nat.log2_self_le nonzero

/-- The number of steps nearest to a quotient. -/
def stepsOf (format : Format) (n d : Nat) : Nat :=
  roundHalfEven n (d * twoTo (format.stepExponent n d))

theorem stepsOf_le : format.stepsOf n d ≤ 2 * format.binade := by
  have below : n / d < twoTo (format.stepExponent n d) * (2 * format.binade) :=
    div_lt_of_stepExponent
  have whole : n / (d * twoTo (format.stepExponent n d)) < 2 * format.binade := by
    rw [← Nat.div_div_eq_div_mul]
    exact Nat.div_lt_of_lt_mul below
  exact Nat.le_trans (roundHalfEven_le_succ _ _) whole

theorem binade_le_stepsOf (wide : format.stepExponent n d ≠ 0) :
    format.binade ≤ format.stepsOf n d := by
  have above := le_div_of_stepExponent wide
  have whole : format.binade ≤ n / (d * twoTo (format.stepExponent n d)) := by
    rw [← Nat.div_div_eq_div_mul]
    exact (Nat.le_div_iff_mul_le (twoTo_pos _)).mpr (by rwa [Nat.mul_comm])
  exact Nat.le_trans whole (floor_le_roundHalfEven _ _)

/-- The units of the code nearest to a quotient, as long as it is no infinity. -/
theorem unitsOfCode_codeOfUnits (finite : format.codeOfUnits n d < format.top) :
    format.unitsOfCode (format.codeOfUnits n d) =
      format.stepsOf n d * twoTo (format.stepExponent n d) := by
  have code_eq : format.codeOfUnits n d =
      format.stepExponent n d * format.binade + format.stepsOf n d := by
    rw [codeOfUnits] at finite ⊢
    exact Nat.min_eq_right (Nat.le_of_lt (by omega))
  rw [code_eq]
  apply format.unitsOfCode_add stepsOf_le
  by_cases unit : format.stepExponent n d = 0
  · exact .inl unit
  · exact .inr (binade_le_stepsOf unit)

/-- Quotients below a power of two are not rounded to an infinity, if the format
has room for that power. -/
theorem codeOfUnits_lt_top {exponent : Nat} (small : n / d < twoTo exponent)
    (room : (exponent - format.precision + 2) * format.binade < format.top) :
    format.codeOfUnits n d < format.top := by
  have log_le : (n / d).log2 ≤ exponent - 1 := by
    by_cases zero : n / d = 0
    · rw [zero]
      exact Nat.zero_le _
    · have log_lt : (n / d).log2 < exponent := (Nat.log2_lt zero).mpr small
      omega
  have step_le : format.stepExponent n d ≤ exponent - format.precision := by
    unfold stepExponent
    omega
  refine Nat.lt_of_le_of_lt (Nat.min_le_right _ _) (Nat.lt_of_le_of_lt ?_ room)
  rw [Nat.add_mul]
  exact Nat.add_le_add (Nat.mul_le_mul_right _ step_le) stepsOf_le

/-- A step is no wider than a fixed part of every bound on the quotient that
leaves room for a whole binade. -/
theorem twoTo_stepExponent_le {bound : ℚ} (quotient_le : (n : ℚ) / d ≤ bound)
    (binade_le : (format.binade : ℚ) ≤ bound) :
    (twoTo (format.stepExponent n d) : ℚ) ≤ bound / format.binade := by
  have pos : (0 : ℚ) < format.binade := by exact_mod_cast format.binade_pos
  rw [le_div_iff₀ pos]
  by_cases unit : format.stepExponent n d = 0
  · rw [unit, twoTo_zero, Nat.cast_one, one_mul]
    exact binade_le
  · calc (twoTo (format.stepExponent n d) : ℚ) * format.binade
        ≤ ((n / d : Nat) : ℚ) := by exact_mod_cast le_div_of_stepExponent unit
      _ ≤ (n : ℚ) / d := Nat.cast_div_le
      _ ≤ bound := quotient_le

/-- The nearest value misses a quotient by at most half a step. -/
theorem abs_unitsOfCode_sub_le (pos : 0 < d) (finite : format.codeOfUnits n d < format.top) :
    |(format.unitsOfCode (format.codeOfUnits n d) : ℚ) - n / d| ≤
      twoTo (format.stepExponent n d) / 2 := by
  have width_pos := twoTo_pos (format.stepExponent n d)
  have upper := roundHalfEven_upper n (Nat.mul_pos pos width_pos)
  have lower := roundHalfEven_lower n (Nat.mul_pos pos width_pos)
  rw [unitsOfCode_codeOfUnits finite, stepsOf]
  generalize twoTo (format.stepExponent n d) = width at *
  generalize roundHalfEven n (d * width) = steps at *
  have pos' : (0 : ℚ) < d := by exact_mod_cast pos
  have upper' : 2 * ((steps : ℚ) * (d * width)) ≤ 2 * n + d * width := by exact_mod_cast upper
  have lower' : 2 * (n : ℚ) ≤ 2 * (steps * (d * width)) + d * width := by exact_mod_cast lower
  have quotient : (n : ℚ) / d * d = n := div_mul_cancel₀ _ pos'.ne'
  rw [Nat.cast_mul, abs_le]
  constructor <;> nlinarith

/-- A whole number of units whose significand fits is not rounded. -/
theorem unitsOfCode_codeOfUnits_mul {significand shift : Nat} (pos : 0 < d)
    (fits : significand < 2 * format.binade)
    (finite : format.codeOfUnits (significand * twoTo shift * d) d < format.top) :
    format.unitsOfCode (format.codeOfUnits (significand * twoTo shift * d) d) =
      significand * twoTo shift := by
  rw [unitsOfCode_codeOfUnits finite, stepsOf]
  have step_le : format.stepExponent (significand * twoTo shift * d) d ≤ shift := by
    rw [stepExponent, Nat.mul_div_cancel _ pos]
    by_cases zero : significand * twoTo shift = 0
    · rw [zero]
      exact Nat.le_trans (Nat.sub_le _ _) (Nat.zero_le _)
    · have log_lt : (significand * twoTo shift).log2 < format.precision - 1 + 1 + shift := by
        rw [Nat.log2_lt zero, pow_add, pow_succ, Nat.mul_comm _ 2]
        exact Nat.mul_lt_mul_of_pos_right fits (twoTo_pos shift)
      omega
  generalize format.stepExponent (significand * twoTo shift * d) d = exponent at step_le ⊢
  obtain ⟨rest, rfl⟩ := Nat.exists_eq_add_of_le step_le
  have steps_eq : significand * twoTo (exponent + rest) * d =
      significand * twoTo rest * (d * twoTo exponent) := by
    rw [twoTo_add]
    ring
  rw [steps_eq, roundHalfEven_mul _ (Nat.mul_pos pos (twoTo_pos exponent)), twoTo_add]
  ring

end Format

end Magnetometer.Number
