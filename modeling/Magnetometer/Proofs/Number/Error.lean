import Magnetometer.Proofs.Number.Value
import Mathlib.Tactic.FieldSimp

/-!
# Errors of single precision

How far the result of an operation is from the exact one.  `Near` says that a
value is finite and within a distance of a number; each operation carries
nearness over and adds one rounding error, which depends on a bound of the
result only.  Numbers with a short enough significand are not rounded at all.
-/

namespace Magnetometer.Number.Single

open Binary

/-- A finite value within a distance of a number. -/
structure Near (a : Single) (x error : ℚ) : Prop where
  finite : a.isFinite = true
  close : |a.value - x| ≤ error

/-- The bounds that leave room for a whole binade and are far from infinity. -/
def Sound (bound : ℚ) : Prop := 1 / 2 ^ 100 ≤ bound ∧ bound ≤ 2 ^ 100

/-- The error of one rounding to a value below a bound. -/
def roundoff (bound : ℚ) : ℚ := bound / 2 ^ 24

/-- Fractions over a power of two that have a short enough significand. -/
def Dyadic (x : ℚ) : Prop := ∃ m j : Nat, m < 2 ^ 24 ∧ j ≤ 149 ∧ |x| = m / 2 ^ j

theorem one_eq : (Format.single.one : ℚ) = 2 ^ 149 := by
  rw [Format.one, twoTo_eq]
  norm_num [Format.single]

theorem binade_eq : (Format.single.binade : ℚ) = 2 ^ 23 := by
  rw [Format.binade, twoTo_eq]
  norm_num [Format.single]

variable {a b r : Single} {x y e f bound : ℚ}

/-- A quotient whose number is below a bound is not rounded to an infinity. -/
theorem codeOfUnits_lt_top {n d : Nat} (high : bound ≤ 2 ^ 100)
    (quotient_le : (n : ℚ) / d ≤ bound * Format.single.one) :
    Format.single.codeOfUnits n d < Format.single.top := by
  have whole_lt : ((n / d : Nat) : ℚ) < 2 ^ 250 := by
    calc ((n / d : Nat) : ℚ) ≤ n / d := Nat.cast_div_le
      _ ≤ bound * Format.single.one := quotient_le
      _ < 2 ^ 250 := by
        rw [one_eq]
        linarith
  have whole_lt' : n / d < twoTo 250 := by exact_mod_cast whole_lt
  exact Format.codeOfUnits_lt_top whole_lt' (by decide)

theorem quotient_eq {negative : Bool} {n d : Nat}
    (exact : signed negative (n / d / Format.single.one) = x) :
    (n : ℚ) / d = |x| * Format.single.one := by
  have one_pos : (0 : ℚ) < Format.single.one := by exact_mod_cast Format.single.one_pos
  rw [← exact, abs_signed, abs_of_nonneg (by positivity), div_mul_cancel₀ _ one_pos.ne']

/-- A rounding misses a number by a fixed part of every bound on it. -/
theorem near_of_rounds (rounds : Rounds r x) (sound : Sound bound) (small : |x| ≤ bound) :
    Near r x (roundoff bound) := by
  obtain ⟨n, d, pos, code, exact⟩ := rounds
  obtain ⟨low, high⟩ := sound
  have one_pos : (0 : ℚ) < Format.single.one := by exact_mod_cast Format.single.one_pos
  have quotient_le : (n : ℚ) / d ≤ bound * Format.single.one := by
    rw [quotient_eq exact]
    exact mul_le_mul_of_nonneg_right small one_pos.le
  have finite := codeOfUnits_lt_top high quotient_le
  have width_le : (twoTo (Format.single.stepExponent n d) : ℚ) ≤
      bound * Format.single.one / Format.single.binade := by
    apply Format.twoTo_stepExponent_le quotient_le
    rw [one_eq, binade_eq]
    linarith
  have error_le := Format.abs_unitsOfCode_sub_le pos finite
  constructor
  · rw [isFinite, code]
    exact decide_eq_true finite
  · rw [value_of_code code, ← exact, signed_sub, abs_signed, ← sub_div, abs_div,
      abs_of_pos one_pos, div_le_iff₀ one_pos]
    rw [one_eq, binade_eq] at width_le
    rw [one_eq, roundoff]
    linarith

/-- Dyadic numbers are not rounded. -/
theorem exact_of_rounds (rounds : Rounds r x) (dyadic : Dyadic x) : Near r x 0 := by
  obtain ⟨n, d, pos, code, exact⟩ := rounds
  obtain ⟨m, j, short, shift, abs_eq⟩ := dyadic
  have pos' : (0 : ℚ) < d := by exact_mod_cast pos
  have quotient : (n : ℚ) / d = m * 2 ^ (149 - j) := by
    rw [quotient_eq exact, abs_eq, one_eq, div_mul_eq_mul_div, mul_div_assoc, div_eq_mul_inv,
      ← pow_sub₀ (2 : ℚ) two_ne_zero shift]
  have whole : n = m * twoTo (149 - j) * d := by
    rw [div_eq_iff pos'.ne'] at quotient
    exact_mod_cast quotient
  have small : |x| ≤ 2 ^ 100 := by
    calc |x| = m / 2 ^ j := abs_eq
      _ ≤ m := div_le_self (Nat.cast_nonneg m) (one_le_pow₀ one_le_two)
      _ ≤ 2 ^ 100 := by exact_mod_cast short.le.trans (by norm_num)
  have finite : Format.single.codeOfUnits n d < Format.single.top := by
    apply codeOfUnits_lt_top le_rfl
    rw [quotient_eq exact]
    exact mul_le_mul_of_nonneg_right small (Nat.cast_nonneg _)
  have units_eq : (Format.single.unitsOfCode (Format.single.codeOfUnits n d) : ℚ) = n / d := by
    rw [quotient]
    subst whole
    rw [Format.unitsOfCode_codeOfUnits_mul pos (by exact short) finite, Nat.cast_mul, twoTo_eq,
      Nat.cast_pow, Nat.cast_ofNat]
  constructor
  · rw [isFinite, code]
    exact decide_eq_true finite
  · rw [value_of_code code, units_eq, exact, sub_self, abs_zero]

theorem dyadic_div {n : Int} {j : Nat} (short : n.natAbs < 2 ^ 24) (shift : j ≤ 149) :
    Dyadic (n / 2 ^ j) := by
  refine ⟨n.natAbs, j, short, shift, ?_⟩
  rw [abs_div, abs_of_pos (by positivity : (0 : ℚ) < 2 ^ j), Nat.cast_natAbs, Int.cast_abs]

theorem Near.mono (near : Near a x e) (le : e ≤ f) : Near a x f :=
  ⟨near.finite, near.close.trans le⟩

theorem Near.value_eq (near : Near a x 0) : a.value = x :=
  sub_eq_zero.mp (abs_nonpos_iff.mp near.close)

theorem near_ofQuotient {n : Int} {d : Nat} (pos : 0 < d) (sound : Sound bound)
    (small : |(n : ℚ) / d| ≤ bound) : Near (ofQuotient n d) (n / d) (roundoff bound) :=
  near_of_rounds (rounds_ofQuotient n pos) sound small

theorem near_ofInt {n : Int} (sound : Sound bound) (small : |(n : ℚ)| ≤ bound) :
    Near (ofInt n) n (roundoff bound) :=
  near_of_rounds (rounds_ofInt n) sound small

/-! ## Nearness of results -/

theorem Near.neg (near : Near a x e) : Near (-a) (-x) e := by
  constructor
  · exact near.finite
  · rw [value_neg, neg_sub_neg, abs_sub_comm]
    exact near.close

/-- What is near to a number is near to the numbers beside it. -/
theorem Near.shift (near : Near a x e) (beside : |x - y| ≤ f) : Near a y (f + e) := by
  refine ⟨near.finite, ?_⟩
  calc |a.value - y| ≤ |a.value - x| + |x - y| := abs_sub_le _ _ _
    _ ≤ e + f := add_le_add near.close beside
    _ = f + e := add_comm e f

theorem abs_le_of_beside (beside : |x - y| ≤ f) (small : |y| + f ≤ bound) : |x| ≤ bound := by
  have split : |x| ≤ |x - y| + |y| := by simpa using abs_add_le (x - y) y
  linarith

theorem abs_div_le_of_abs_le (pos : 0 < y) (small : |x| ≤ bound * y) : |x / y| ≤ bound := by
  rw [abs_div, abs_of_pos pos, div_le_iff₀ pos]
  exact small

theorem Near.add (bound : ℚ) (nearA : Near a x e) (nearB : Near b y f) (sound : Sound bound)
    (small : |x + y| + (e + f) ≤ bound) : Near (a + b) (x + y) (e + f + roundoff bound) := by
  have beside : |a.value + b.value - (x + y)| ≤ e + f := by
    rw [add_sub_add_comm]
    exact (abs_add_le _ _).trans (add_le_add nearA.close nearB.close)
  exact (near_of_rounds (rounds_add nearA.finite nearB.finite) sound
    (abs_le_of_beside beside small)).shift beside

theorem Near.mul (m l bound : ℚ) (nearA : Near a x e) (nearB : Near b y f) (sound : Sound bound)
    (xLe : |x| ≤ m) (yLe : |y| ≤ l) (small : m * l + (m * f + l * e + e * f) ≤ bound) :
    Near (a * b) (x * y) (m * f + l * e + e * f + roundoff bound) := by
  have beside : |a.value * b.value - x * y| ≤ m * f + l * e + e * f := by
    have split : a.value * b.value - x * y =
        x * (b.value - y) + y * (a.value - x) + (a.value - x) * (b.value - y) := by
      ring
    rw [split]
    calc |x * (b.value - y) + y * (a.value - x) + (a.value - x) * (b.value - y)|
        ≤ |x * (b.value - y)| + |y * (a.value - x)| + |(a.value - x) * (b.value - y)| :=
          abs_add_three _ _ _
      _ = |x| * |b.value - y| + |y| * |a.value - x| + |a.value - x| * |b.value - y| := by
          rw [abs_mul, abs_mul, abs_mul]
      _ ≤ m * f + l * e + e * f := by
          have closeA := nearA.close
          have closeB := nearB.close
          gcongr
          all_goals exact le_trans (abs_nonneg _) (by assumption)
  have product_le : |x * y| ≤ m * l := by
    rw [abs_mul]
    exact mul_le_mul xLe yLe (abs_nonneg _) (le_trans (abs_nonneg _) xLe)
  refine (near_of_rounds (rounds_mul nearA.finite nearB.finite) sound ?_).shift beside
  exact abs_le_of_beside beside (by linarith)

theorem Near.div (q low bound : ℚ) (nearA : Near a x e) (nearB : Near b y f) (sound : Sound bound)
    (quotientLe : |x / y| ≤ q) (lowPos : 0 < low) (lowLe : low + f ≤ |y|)
    (small : q + (e + q * f) / low ≤ bound) :
    Near (a / b) (x / y) ((e + q * f) / low + roundoff bound) := by
  have divisor_ge : low ≤ |b.value| := by
    have split : |y| ≤ |y - b.value| + |b.value| := by simpa using abs_add_le (y - b.value) b.value
    have closeB := nearB.close
    rw [abs_sub_comm] at closeB
    linarith
  have y_ne : y ≠ 0 := by
    have f_nonneg : 0 ≤ f := le_trans (abs_nonneg _) nearB.close
    exact abs_pos.mp (by linarith)
  have b_ne : b.value ≠ 0 := abs_pos.mp (by linarith)
  have beside : |a.value / b.value - x / y| ≤ (e + q * f) / low := by
    have split : a.value / b.value - x / y =
        ((a.value - x) - x / y * (b.value - y)) / b.value := by
      field_simp
      ring
    have error_le : |a.value - x - x / y * (b.value - y)| ≤ e + q * f := by
      rw [sub_eq_add_neg (a.value - x)]
      calc |a.value - x + -(x / y * (b.value - y))|
          ≤ |a.value - x| + |x / y| * |b.value - y| := by
            rw [← abs_mul, ← abs_neg (x / y * _)]
            exact abs_add_le _ _
        _ ≤ e + q * f :=
            add_le_add nearA.close (mul_le_mul quotientLe nearB.close (abs_nonneg _)
              (le_trans (abs_nonneg _) quotientLe))
    rw [split, abs_div]
    exact div_le_div₀ (le_trans (abs_nonneg _) error_le) error_le lowPos divisor_ge
  refine (near_of_rounds (rounds_div nearA.finite nearB.finite b_ne) sound ?_).shift beside
  exact abs_le_of_beside beside (by linarith)

/-! ## Exact results -/

/-- Integers of at most 24 bits are not rounded. -/
theorem exact_ofInt {n : Int} (short : n.natAbs < 2 ^ 24) : Near (ofInt n) n 0 := by
  have dyadic : Dyadic ((n : ℚ) / 2 ^ 0) := dyadic_div short (Nat.zero_le _)
  rw [pow_zero, div_one] at dyadic
  exact exact_of_rounds (rounds_ofInt n) dyadic

theorem Near.add_exact (nearA : Near a x 0) (nearB : Near b y 0) (dyadic : Dyadic (x + y)) :
    Near (a + b) (x + y) 0 := by
  have rounds := rounds_add nearA.finite nearB.finite
  rw [nearA.value_eq, nearB.value_eq] at rounds
  exact exact_of_rounds rounds dyadic

theorem Near.sub_exact (nearA : Near a x 0) (nearB : Near b y 0) (dyadic : Dyadic (x - y)) :
    Near (a - b) (x - y) 0 := by
  rw [sub_eq_add_neg] at dyadic ⊢
  exact nearA.add_exact nearB.neg dyadic

theorem Near.mul_exact (nearA : Near a x 0) (nearB : Near b y 0) (dyadic : Dyadic (x * y)) :
    Near (a * b) (x * y) 0 := by
  have rounds := rounds_mul nearA.finite nearB.finite
  rw [nearA.value_eq, nearB.value_eq] at rounds
  exact exact_of_rounds rounds dyadic

theorem Near.div_exact (nearA : Near a x 0) (nearB : Near b y 0) (nonzero : y ≠ 0)
    (dyadic : Dyadic (x / y)) : Near (a / b) (x / y) 0 := by
  have rounds := rounds_div nearA.finite nearB.finite (by rwa [nearB.value_eq])
  rw [nearA.value_eq, nearB.value_eq] at rounds
  exact exact_of_rounds rounds dyadic

/-! ## Truncation -/

theorem abs_tdiv_sub_lt {n : Int} {d : Nat} (pos : 0 < d) :
    |((n.tdiv d : Int) : ℚ) - n / d| < 1 := by
  have pos' : (0 : ℚ) < d := by exact_mod_cast pos
  have split : ((d : Int) : ℚ) * (n.tdiv d : Int) + (n.tmod d : Int) = n := by
    exact_mod_cast Int.mul_tdiv_add_tmod n d
  have below : ((n.tmod d : Int) : ℚ) < d := by
    exact_mod_cast Int.tmod_lt_of_pos n (by exact_mod_cast pos)
  have above : -(d : ℚ) < (n.tmod d : Int) := by
    exact_mod_cast Int.lt_tmod_of_pos n (by exact_mod_cast pos)
  have quotient : (n : ℚ) / d * d = n := div_mul_cancel₀ _ pos'.ne'
  rw [Int.cast_natCast] at split
  rw [abs_lt]
  constructor <;> nlinarith

/-- Holding a number between bounds on both sides of another one brings it no
farther from that one. -/
theorem abs_clamp_sub_lt {lower upper distance : ℚ} (above : lower ≤ x) (below : x ≤ upper)
    (close : |y - x| < distance) : |max lower (min upper y) - x| < distance := by
  obtain ⟨left, right⟩ := abs_lt.mp close
  rcases le_total upper y with beyond | inside
  · rw [min_eq_left beyond, max_eq_right (above.trans below), abs_lt]
    constructor <;> linarith
  · rw [min_eq_right inside]
    rcases le_total lower y with within | beyond
    · rw [max_eq_right within]
      exact close
    · rw [max_eq_left beyond, abs_lt]
      constructor <;> linarith

theorem truncate_eq {lower upper : Int} (finite : a.isFinite = true) :
    a.truncate lower upper = max lower (min upper (a.units.tdiv Format.single.one)) := by
  unfold Binary.truncate
  rw [isNaN_eq_false finite, isInfinite_eq_false finite]
  rfl

/-- A value in range is truncated to an integer less than one away. -/
theorem Near.truncate {lower upper : Int} (near : Near a x e) (above : (lower : ℚ) + e ≤ x)
    (below : x + e ≤ upper) : |((a.truncate lower upper : Int) : ℚ) - x| < 1 + e := by
  obtain ⟨left, right⟩ := abs_le.mp near.close
  have whole : |((a.units.tdiv Format.single.one : Int) : ℚ) - a.value| < 1 :=
    abs_tdiv_sub_lt Format.single.one_pos
  have held : |((a.truncate lower upper : Int) : ℚ) - a.value| < 1 := by
    rw [truncate_eq near.finite, Int.cast_max, Int.cast_min]
    exact abs_clamp_sub_lt (by linarith) (by linarith) whole
  calc |((a.truncate lower upper : Int) : ℚ) - x|
      ≤ |((a.truncate lower upper : Int) : ℚ) - a.value| + |a.value - x| := abs_sub_le _ _ _
    _ < 1 + e := add_lt_add_of_lt_of_le held near.close

theorem Near.toInt16 (near : Near a x e) (small : |x| + e ≤ 32767) :
    |(a.toInt16.toInt : ℚ) - x| < 1 + e := by
  obtain ⟨left, right⟩ := abs_le.mp (show |x| ≤ 32767 - e by linarith)
  have inside : a.truncate (-32768) 32767 =
      max (-32768) (min 32767 (a.units.tdiv Format.single.one)) := truncate_eq near.finite
  have toInt_eq : a.toInt16.toInt = a.truncate (-32768) 32767 :=
    Int16.toInt_ofInt_of_le (by omega) (by omega)
  rw [toInt_eq]
  exact near.truncate (by push_cast; linarith) (by push_cast; linarith)

theorem Near.toInt32 (near : Near a x e) (small : |x| + e ≤ 2147483647) :
    |(a.toInt32.toInt : ℚ) - x| < 1 + e := by
  obtain ⟨left, right⟩ := abs_le.mp (show |x| ≤ 2147483647 - e by linarith)
  have inside : a.truncate (-2147483648) 2147483647 =
      max (-2147483648) (min 2147483647 (a.units.tdiv Format.single.one)) := truncate_eq near.finite
  have toInt_eq : a.toInt32.toInt = a.truncate (-2147483648) 2147483647 :=
    Int32.toInt_ofInt_of_le (by omega) (by omega)
  rw [toInt_eq]
  exact near.truncate (by push_cast; linarith) (by push_cast; linarith)

end Magnetometer.Number.Single
