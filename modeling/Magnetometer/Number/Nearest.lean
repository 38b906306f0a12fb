/-!
# Rounding a quotient to the nearest integer

`roundHalfEven n d` is the integer nearest to `n / d`, a tie going to the even
neighbour.  The two error bounds say that the result is within half a unit of
the quotient; they are stated without division so that `omega` and `nlinarith`
can use them.
-/

namespace Magnetometer.Number

/-- The integer nearest to `n / d`; a tie goes to the even neighbour. -/
def roundHalfEven (n d : Nat) : Nat :=
  if 2 * (n % d) < d then
    n / d
  else if d < 2 * (n % d) then
    n / d + 1
  else
    n / d + n / d % 2

/-- Rounding keeps the floor or moves to the next integer. -/
theorem floor_le_roundHalfEven (n d : Nat) : n / d ≤ roundHalfEven n d := by
  unfold roundHalfEven
  split
  · exact Nat.le_refl _
  · split <;> omega

theorem roundHalfEven_le_succ (n d : Nat) : roundHalfEven n d ≤ n / d + 1 := by
  unfold roundHalfEven
  split
  · omega
  · split <;> omega

/-- The rounded value exceeds the quotient by at most half a unit. -/
theorem roundHalfEven_upper (n : Nat) {d : Nat} (hd : 0 < d) :
    2 * (roundHalfEven n d * d) ≤ 2 * n + d := by
  have hsplit : d * (n / d) + n % d = n := Nat.div_add_mod n d
  have hrem : n % d < d := Nat.mod_lt n hd
  have hcomm : n / d * d = d * (n / d) := Nat.mul_comm _ _
  unfold roundHalfEven
  split
  · omega
  · split
    · rw [Nat.add_mul, Nat.one_mul]
      omega
    · rw [Nat.add_mul]
      have hparity : n / d % 2 = 0 ∨ n / d % 2 = 1 := by omega
      rcases hparity with h | h <;> rw [h] <;> omega

/-- The quotient exceeds the rounded value by at most half a unit. -/
theorem roundHalfEven_lower (n : Nat) {d : Nat} (hd : 0 < d) :
    2 * n ≤ 2 * (roundHalfEven n d * d) + d := by
  have hsplit : d * (n / d) + n % d = n := Nat.div_add_mod n d
  have hrem : n % d < d := Nat.mod_lt n hd
  have hcomm : n / d * d = d * (n / d) := Nat.mul_comm _ _
  unfold roundHalfEven
  split
  · omega
  · split
    · rw [Nat.add_mul, Nat.one_mul]
      omega
    · rw [Nat.add_mul]
      have hparity : n / d % 2 = 0 ∨ n / d % 2 = 1 := by omega
      rcases hparity with h | h <;> rw [h] <;> omega

/-- Whole quotients are kept. -/
theorem roundHalfEven_mul (q : Nat) {d : Nat} (hd : 0 < d) : roundHalfEven (q * d) d = q := by
  simp [roundHalfEven, Nat.mul_div_cancel q hd, hd]

end Magnetometer.Number
