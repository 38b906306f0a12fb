import Magnetometer.Toml.Scalar
import Mathlib.Data.List.TakeWhile

/-!
# Reading back numbers

The digits of a number are read as an integer: they are no word, no date and no
float, and no zero stands before them.
-/

namespace Magnetometer.Number.Decimal

theorem isDigit_of_mem_digits {n : Nat} {c : Char} (mem : c ∈ digits n) : c.isDigit = true := by
  have digit : ∀ d < 10, (digitChar d).isDigit = true := by decide
  obtain ⟨d, small, rfl⟩ := exists_of_mem_digits mem
  exact digit d small

/-- Only zero begins with a zero. -/
theorem eq_zero_of_head?_digits {n : Nat} (zero : (digits n).head? = some '0') : n = 0 := by
  have digit : ∀ d < 10, digitChar d = '0' → d = 0 := by decide
  induction n using Nat.strongRecOn with
  | ind n ih =>
      unfold digits at zero
      split at zero
      · rename_i small
        exact digit n small (Option.some.inj zero)
      · rename_i large
        rw [List.head?_append, Option.or_of_isSome (by simp [digits_ne_nil])] at zero
        have none := ih (n / 10) (by omega) zero
        omega

end Magnetometer.Number.Decimal

namespace Magnetometer.Toml

open Number

/-- A text of digits. -/
def AllDigits (text : List Char) : Prop := ∀ c ∈ text, c.isDigit = true

variable {text : List Char}

theorem AllDigits.not_mem (digits : AllDigits text) {c : Char} (other : c.isDigit = false) :
    c ∉ text := by
  intro mem
  rw [digits c mem] at other
  contradiction

theorem AllDigits.beq_eq (digits : AllDigits text) {c other : Char} (mem : c ∈ text)
    (strange : other.isDigit = false) : (c == other) = false := by
  rw [beq_eq_false_iff_ne]
  rintro rfl
  exact digits.not_mem strange mem

theorem AllDigits.ne_of_mem (digits : AllDigits text) {other : List Char} {c : Char}
    (mem : c ∈ other) (strange : c.isDigit = false) : text ≠ other := by
  rintro rfl
  exact digits.not_mem strange mem

theorem AllDigits.isDate_eq (digits : AllDigits text) : isDate text = false := by
  unfold isDate
  split
  · exact absurd (by simp) (digits.not_mem (c := '-') rfl)
  · rfl

theorem AllDigits.isTime_eq (digits : AllDigits text) : isTime text = false := by
  unfold isTime
  split
  · rename_i behind
    have mem : ':' ∈ text := List.mem_of_mem_drop (behind ▸ List.mem_cons_self)
    exact absurd mem (digits.not_mem rfl)
  · rfl

theorem AllDigits.isDateTime_eq (digits : AllDigits text) : isDateTime text = false := by
  have front : AllDigits (text.take 10) := fun c mem => digits c (List.mem_of_mem_take mem)
  rw [isDateTime, front.isDate_eq, Bool.false_and]

theorem AllDigits.takeSign_eq (digits : AllDigits text) : takeSign text = (false, text) := by
  unfold takeSign
  split
  · exact absurd List.mem_cons_self (digits.not_mem (c := '-') rfl)
  · exact absurd List.mem_cons_self (digits.not_mem (c := '+') rfl)
  · rfl

theorem cutAt_of_forall {isCut : Char → Bool} (uncut : ∀ c ∈ text, isCut c = false) :
    cutAt isCut text = (text, none) := by
  have whole : text.dropWhile (fun c => !isCut c) = [] := by
    rw [List.dropWhile_eq_nil_iff]
    intro c mem
    rw [uncut c mem, Bool.not_false]
  rw [cutAt, whole]

theorem AllDigits.isFloat_eq (digits : AllDigits text) : isFloat text = false := by
  have noExponent : ∀ c ∈ text, (c == 'e' || c == 'E') = false := by
    intro c mem
    rw [digits.beq_eq mem rfl, digits.beq_eq mem rfl, Bool.or_false]
  have noPoint : ∀ c ∈ text, (c == '.') = false := fun c mem => digits.beq_eq mem rfl
  unfold isFloat
  rw [digits.takeSign_eq]
  dsimp only
  rw [cutAt_of_forall noExponent]
  dsimp only
  rw [cutAt_of_forall noPoint]
  have word : ¬(text = "inf".toList ∨ text = "nan".toList) :=
    not_or.mpr ⟨digits.ne_of_mem (c := 'n') (by decide) rfl,
      digits.ne_of_mem (c := 'n') (by decide) rfl⟩
  rw [if_neg word]
  rfl

theorem AllDigits.plainDigits?_eq (digits : AllDigits text) (begun : text ≠ []) :
    plainDigits? Char.isDigit text = some text := by
  induction text with
  | nil => contradiction
  | cons c rest ih =>
      obtain ⟨digit, digitsRest⟩ := List.forall_mem_cons.mp digits
      cases rest with
      | nil => rw [plainDigits?, if_pos digit]
      | cons d rest =>
          have plain : d ≠ '_' := by
            rintro rfl
            exact digits.not_mem (c := '_') rfl (List.mem_cons_of_mem _ List.mem_cons_self)
          rw [plainDigits?.eq_4, if_pos digit, ih digitsRest (List.cons_ne_nil _ _)]
          · rfl
          · exact List.cons_ne_nil _ _
          · exact fun _ same => plain (List.cons.inj same).1

theorem AllDigits.scalar?_eq (digits : AllDigits text) :
    scalar? text = (integer? text).map .integer := by
  unfold scalar?
  rw [if_neg (digits.ne_of_mem (c := 't') (by decide) rfl),
    if_neg (digits.ne_of_mem (c := 'f') (by decide) rfl), digits.isDate_eq, digits.isTime_eq,
    digits.isDateTime_eq, digits.isFloat_eq]
  rfl

theorem allDigits_digits (n : Nat) : AllDigits (Decimal.digits n) :=
  fun _ mem => Decimal.isDigit_of_mem_digits mem

theorem wholeDigits?_digits (n : Nat) :
    wholeDigits? (Decimal.digits n) = some (Decimal.digits n) := by
  have plain := (allDigits_digits n).plainDigits?_eq (Decimal.digits_ne_nil n)
  unfold wholeDigits?
  split
  · rename_i c rest zero
    rw [plain, Option.some.injEq] at zero
    have n_zero : n = 0 := Decimal.eq_zero_of_head?_digits (by rw [zero]; rfl)
    rw [n_zero, Decimal.digits] at zero
    exact absurd (congrArg List.length zero) (by simp)
  · exact plain

theorem integer?_digits {n : Nat} (small : (n : Int) ≤ maxInteger) :
    integer? (Decimal.digits n) = some (n : Int) := by
  have digits := allDigits_digits n
  have second : ∀ c rest, Decimal.digits n = '0' :: c :: rest → c.isDigit = true := by
    intro c rest same
    exact digits c (same ▸ List.mem_cons_of_mem _ List.mem_cons_self)
  have inside : minInteger ≤ n ∧ (n : Int) ≤ maxInteger := by
    unfold minInteger
    omega
  unfold integer?
  split
  case h_1 same | h_2 same | h_3 same => exact absurd (second _ _ same) (by decide)
  case h_4 =>
    rw [digits.takeSign_eq]
    dsimp only
    rw [wholeDigits?_digits, Option.bind_some, Decimal.readDigits_digits, Option.map_some,
      if_neg Bool.false_ne_true]
    exact if_pos inside

/-- What is written for a number on a line is read back as the number. -/
theorem takeScalar?_digits {n : Nat} (small : (n : Int) ≤ maxInteger) (rest : List Char) :
    takeScalar? (Decimal.digits n ++ '\n' :: rest) = some (.integer n, '\n' :: rest) := by
  have digits := allDigits_digits n
  have scalar : ∀ c ∈ Decimal.digits n, isScalarChar c = true := by
    intro c mem
    simp [isScalarChar, Char.isAlphanum, digits c mem]
  unfold takeScalar?
  dsimp only
  rw [List.takeWhile_append_of_pos scalar, List.dropWhile_append_of_pos scalar,
    List.takeWhile_cons_of_neg (by decide), List.dropWhile_cons_of_neg (by decide), List.append_nil,
    digits.scalar?_eq, integer?_digits small, digits.isDate_eq]
  rfl

end Magnetometer.Toml
