import Magnetometer.Proofs.Number.Rounding
import Mathlib.Algebra.Order.AbsoluteValue.Basic

/-!
# The numbers behind the values

A finite value stands for a rational number.  Each operation on finite values
gives the value nearest to what the same operation gives on those numbers.
-/

namespace Magnetometer.Number

namespace Binary

variable {format : Format}

/-- The number that a finite value stands for. -/
def value (a : Binary format) : ℚ := a.units / format.one

/-- A magnitude with a sign. -/
def signed (negative : Bool) (magnitude : ℚ) : ℚ := if negative then -magnitude else magnitude

theorem abs_signed (negative : Bool) (magnitude : ℚ) :
    |signed negative magnitude| = |magnitude| := by
  cases negative
  · rfl
  · exact abs_neg magnitude

theorem signed_sub (negative : Bool) (m n : ℚ) :
    signed negative m - signed negative n = signed negative (m - n) := by
  cases negative
  · rfl
  · change -m - -n = -(m - n)
    ring

theorem signed_zero (negative : Bool) : signed negative 0 = 0 := by
  cases negative
  · rfl
  · exact neg_zero

/-- An integer is its magnitude with its sign. -/
theorem signed_natAbs (n : Int) : signed (decide (n < 0)) (n.natAbs : ℚ) = n := by
  by_cases below : n < 0
  · have magnitude_eq : (n.natAbs : Int) = -n := Int.ofNat_natAbs_of_nonpos below.le
    rw [signed, if_pos (decide_eq_true below)]
    rw [← Int.cast_natCast, magnitude_eq, Int.cast_neg, neg_neg]
  · have magnitude_eq : (n.natAbs : Int) = n := Int.natAbs_of_nonneg (Int.not_lt.mp below)
    rw [signed, if_neg (by simpa using below), ← Int.cast_natCast, magnitude_eq]

theorem signed_mul (negative : Bool) (m n : ℚ) :
    signed negative m * n = signed negative (m * n) := by
  cases negative
  · rfl
  · exact neg_mul m n

theorem signed_mul_signed (negative other : Bool) (m n : ℚ) :
    signed negative m * signed other n = signed (negative != other) (m * n) := by
  cases negative <;> cases other <;> simp [signed]

theorem signed_div_signed (negative other : Bool) (m n : ℚ) :
    signed negative m / signed other n = signed (negative != other) (m / n) := by
  cases negative <;> cases other <;> simp [signed, neg_div, div_neg]

theorem value_eq (a : Binary format) : a.value = signed a.negative (a.magnitude / format.one) := by
  unfold value units signed
  cases a.negative
  · simp
  · simp [neg_div]

@[simp]
theorem value_neg (a : Binary format) : (-a).value = -a.value := by
  have flipped : (-a).value = signed (!a.negative) (a.magnitude / format.one) := value_eq (-a)
  rw [flipped, value_eq]
  cases a.negative
  · rfl
  · exact (neg_neg _).symm

/-- Zeros stand for zero. -/
theorem value_of_isZero {a : Binary format} (zero : a.isZero = true) : a.value = 0 := by
  have magnitude_eq : a.magnitude = 0 := by
    rw [magnitude, eq_of_beq zero]
    exact if_pos format.binade_pos
  rw [value_eq, magnitude_eq, Nat.cast_zero, zero_div, signed_zero]

theorem isNaN_eq_false {a : Binary format} (finite : a.isFinite = true) : a.isNaN = false := by
  rw [isFinite, decide_eq_true_eq] at finite
  exact decide_eq_false (Nat.not_lt.mpr (Nat.le_of_lt finite))

theorem isInfinite_eq_false {a : Binary format} (finite : a.isFinite = true) :
    a.isInfinite = false := by
  rw [isFinite, decide_eq_true_eq] at finite
  exact beq_false_of_ne (Nat.ne_of_lt finite)

/-! ## Operations -/

/-- A result is the value nearest to a number. -/
def Rounds (r : Binary format) (x : ℚ) : Prop :=
  ∃ n d, 0 < d ∧ r.code = format.codeOfUnits n d ∧ signed r.negative (n / d / format.one) = x

theorem one_ne_zero : (format.one : ℚ) ≠ 0 := by exact_mod_cast format.one_pos.ne'

theorem rounds_ofQuotient (n : Int) {d : Nat} (pos : 0 < d) :
    Rounds (ofQuotient n d : Binary format) (n / d) := by
  refine ⟨_, d, pos, rfl, ?_⟩
  change signed (decide (n < 0)) _ = _
  rw [Nat.cast_mul, div_right_comm, mul_div_cancel_right₀ _ one_ne_zero, div_eq_mul_inv,
    ← signed_mul, signed_natAbs, ← div_eq_mul_inv]

theorem rounds_ofInt (n : Int) : Rounds (ofInt n : Binary format) n := by
  have rounds : Rounds (ofQuotient n 1 : Binary format) (n / (1 : Nat)) :=
    rounds_ofQuotient n Nat.one_pos
  rwa [Nat.cast_one, div_one] at rounds

variable {a b : Binary format}

theorem rounds_add (finiteA : a.isFinite = true) (finiteB : b.isFinite = true) :
    Rounds (a + b) (a.value + b.value) := by
  have sum_eq : a.value + b.value = ((a.units + b.units : Int) : ℚ) / format.one := by
    rw [value, value, ← add_div, Int.cast_add]
  change Rounds (add a b) _
  unfold add
  rw [isNaN_eq_false finiteA, isNaN_eq_false finiteB, isInfinite_eq_false finiteA,
    isInfinite_eq_false finiteB]
  refine ⟨(a.units + b.units).natAbs, 1, Nat.one_pos, rfl, ?_⟩
  rw [sum_eq, Nat.cast_one, div_one]
  by_cases zero : a.units + b.units = 0
  · rw [zero, Int.natAbs_zero, Nat.cast_zero, Int.cast_zero, zero_div, signed_zero]
  · change signed (if a.units + b.units = 0 then _ else _) _ = _
    rw [if_neg zero, div_eq_mul_inv, ← signed_mul, signed_natAbs, ← div_eq_mul_inv]

theorem rounds_mul (finiteA : a.isFinite = true) (finiteB : b.isFinite = true) :
    Rounds (a * b) (a.value * b.value) := by
  change Rounds (mul a b) _
  unfold mul
  rw [isNaN_eq_false finiteA, isNaN_eq_false finiteB, isInfinite_eq_false finiteA,
    isInfinite_eq_false finiteB]
  refine ⟨a.magnitude * b.magnitude, format.one, format.one_pos, rfl, ?_⟩
  rw [value_eq, value_eq, signed_mul_signed, Nat.cast_mul, div_mul_div_comm, div_div]
  rfl

theorem rounds_div (finiteA : a.isFinite = true) (finiteB : b.isFinite = true)
    (nonzero : b.value ≠ 0) : Rounds (a / b) (a.value / b.value) := by
  have unzero : b.isZero = false := by
    rw [← Bool.not_eq_true]
    exact fun zero => nonzero (value_of_isZero zero)
  have magnitude_pos : 0 < b.magnitude := by
    apply Nat.pos_of_ne_zero
    intro zero
    apply nonzero
    rw [value_eq, zero, Nat.cast_zero, zero_div, signed_zero]
  change Rounds (div a b) _
  unfold div
  rw [isNaN_eq_false finiteA, isNaN_eq_false finiteB, isInfinite_eq_false finiteA,
    isInfinite_eq_false finiteB, unzero]
  refine ⟨a.magnitude * format.one, b.magnitude, magnitude_pos, rfl, ?_⟩
  rw [value_eq, value_eq, signed_div_signed, Nat.cast_mul, div_div_div_cancel_right₀ one_ne_zero,
    div_right_comm, mul_div_cancel_right₀ _ one_ne_zero]
  rfl

/-- The number that a result stands for. -/
theorem value_of_code {r : Binary format} {n d : Nat} (code : r.code = format.codeOfUnits n d) :
    r.value =
      signed r.negative (format.unitsOfCode (format.codeOfUnits n d) / format.one) := by
  rw [value_eq, magnitude, code]

end Binary

end Magnetometer.Number
