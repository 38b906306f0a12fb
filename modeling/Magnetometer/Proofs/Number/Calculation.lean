import Magnetometer.Number.Binary

/-!
# Calculations that stay finite

A value that is infinite or no number stays so in sums, differences and products,
and as a dividend.  A calculation with a finite result was therefore finite all
the way, if its divisors are.
-/

namespace Magnetometer.Number

namespace Binary

variable {format : Format} {a b : Binary format}

theorem isFinite_eq_true_iff : a.isFinite = true ↔ a.isNaN = false ∧ a.isInfinite = false := by
  rw [isFinite, isNaN, isInfinite, decide_eq_true_iff, decide_eq_false_iff_not, beq_eq_false_iff_ne]
  omega

@[simp]
theorem isFinite_nan : (nan : Binary format).isFinite = false :=
  decide_eq_false (Nat.not_lt.mpr (Nat.le_add_right _ _))

@[simp]
theorem isFinite_infinity (negative : Bool) :
    (infinity negative : Binary format).isFinite = false :=
  decide_eq_false (Nat.lt_irrefl _)

/-- The terms of a finite sum are finite. -/
theorem isFinite_of_add (finite : (a + b).isFinite = true) :
    a.isFinite = true ∧ b.isFinite = true := by
  change (add a b).isFinite = true at finite
  rw [isFinite_eq_true_iff, isFinite_eq_true_iff]
  unfold add at finite
  cases nanA : a.isNaN <;> cases nanB : b.isNaN <;> cases infiniteA : a.isInfinite <;>
    cases infiniteB : b.isInfinite <;> simp [*, isFinite_eq_true_iff, apply_ite] at finite ⊢

/-- The factors of a finite product are finite. -/
theorem isFinite_of_mul (finite : (a * b).isFinite = true) :
    a.isFinite = true ∧ b.isFinite = true := by
  change (mul a b).isFinite = true at finite
  rw [isFinite_eq_true_iff, isFinite_eq_true_iff]
  unfold mul at finite
  cases nanA : a.isNaN <;> cases nanB : b.isNaN <;> cases infiniteA : a.isInfinite <;>
    cases infiniteB : b.isInfinite <;> simp [*, apply_ite] at finite ⊢

/-- The dividend of a finite quotient is finite. -/
theorem isFinite_of_div (finite : (a / b).isFinite = true) : a.isFinite = true := by
  change (div a b).isFinite = true at finite
  rw [isFinite_eq_true_iff]
  unfold div at finite
  cases nanA : a.isNaN <;> cases nanB : b.isNaN <;> cases infiniteA : a.isInfinite <;>
    cases infiniteB : b.isInfinite <;> simp [*, apply_ite] at finite ⊢

end Binary

/-- An operation that keeps what is not finite. -/
inductive Operation where
  | add
  | sub
  | mul

namespace Operation

/-- The result of an operation. -/
def apply (operation : Operation) (a b : Single) : Single :=
  match operation with
  | add => a + b
  | sub => a - b
  | mul => a * b

/-- The operands of a finite result are finite. -/
theorem isFinite_of_apply {operation : Operation} {a b : Single}
    (finite : (operation.apply a b).isFinite = true) :
    a.isFinite = true ∧ b.isFinite = true := by
  cases operation with
  | add => exact Binary.isFinite_of_add finite
  | sub => exact Binary.isFinite_of_add (b := b.neg) finite
  | mul => exact Binary.isFinite_of_mul finite

end Operation

/-- A calculation in single precision, with every divisor given. -/
inductive Calculation where
  | value (a : Single)
  | apply (operation : Operation) (c d : Calculation)
  | div (c : Calculation) (divisor : Single)

namespace Calculation

/-- The result of a calculation. -/
def result : Calculation → Single
  | value a => a
  | apply operation c d => operation.apply c.result d.result
  | div c divisor => c.result / divisor

/-- The divisors of a calculation. -/
def divisors : Calculation → List Single
  | value _ => []
  | apply _ c d => c.divisors ++ d.divisors
  | div c divisor => divisor :: c.divisors

/-- Every value of a calculation: those that it starts from, its divisors, and the
results of its steps. -/
def values : Calculation → List Single
  | value a => [a]
  | apply operation c d => operation.apply c.result d.result :: (c.values ++ d.values)
  | div c divisor => c.result / divisor :: divisor :: c.values

/-- With finite divisors only finite values lead to a finite result. -/
theorem isFinite_of_mem_values (c : Calculation) (finite : c.result.isFinite = true)
    (divisors : ∀ divisor ∈ c.divisors, divisor.isFinite = true) :
    ∀ a ∈ c.values, a.isFinite = true := by
  induction c with
  | value a => exact List.forall_mem_singleton.mpr finite
  | apply operation c d ihC ihD =>
      obtain ⟨finiteC, finiteD⟩ := Operation.isFinite_of_apply finite
      obtain ⟨divisorsC, divisorsD⟩ := List.forall_mem_append.mp divisors
      exact List.forall_mem_cons.mpr
        ⟨finite, List.forall_mem_append.mpr ⟨ihC finiteC divisorsC, ihD finiteD divisorsD⟩⟩
  | div c divisor ih =>
      obtain ⟨finiteDivisor, divisorsC⟩ := List.forall_mem_cons.mp divisors
      have finiteC : c.result.isFinite = true := Binary.isFinite_of_div finite
      exact List.forall_mem_cons.mpr
        ⟨finite, List.forall_mem_cons.mpr ⟨finiteDivisor, ih finiteC divisorsC⟩⟩

end Calculation

end Magnetometer.Number
