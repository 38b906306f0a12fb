/-!
# Decimal text of integers

Digits of natural numbers and the signed form of integers, written without
leading zeros and read with an optional sign.  `parseNat?_digits` and
`parseInt?_render` say that reading gives back what was written.
-/

namespace Magnetometer.Number.Decimal

/-- The digit character of a number below ten. -/
def digitChar (n : Nat) : Char := Char.ofNat (n + 48)

/-- The number of a digit character. -/
def digitValue? (c : Char) : Option Nat :=
  if 48 ≤ c.toNat ∧ c.toNat ≤ 57 then some (c.toNat - 48) else none

/-- The decimal digits of a number, without leading zeros. -/
def digits (n : Nat) : List Char :=
  if n < 10 then [digitChar n] else digits (n / 10) ++ [digitChar (n % 10)]
termination_by n

/-- The number that digits continue from a number already read. -/
def readDigits : Nat → List Char → Option Nat
  | value, [] => some value
  | value, c :: rest =>
      match digitValue? c with
      | none => none
      | some digit => readDigits (value * 10 + digit) rest

/-- The number written as one or more digits. -/
def parseNat? (text : List Char) : Option Nat :=
  if text.isEmpty then none else readDigits 0 text

/-- The integer written as one or more digits after an optional sign. -/
def parseInt? : List Char → Option Int
  | '-' :: rest => (parseNat? rest).map (fun n : Nat => -Int.ofNat n)
  | '+' :: rest => (parseNat? rest).map Int.ofNat
  | text => (parseNat? text).map Int.ofNat

/-- Decimal form of an integer: a minus sign before the digits of a negative
one. -/
def render (n : Int) : List Char :=
  if n < 0 then '-' :: digits n.natAbs else digits n.natAbs

/-- Decimal form of an integer as a string. -/
def text (n : Int) : String := String.ofList (render n)

theorem digitValue?_digitChar {n : Nat} (h : n < 10) : digitValue? (digitChar n) = some n := by
  match n, h with
  | 0, _ | 1, _ | 2, _ | 3, _ | 4, _ | 5, _ | 6, _ | 7, _ | 8, _ | 9, _ => decide

theorem digits_ne_nil (n : Nat) : digits n ≠ [] := by
  unfold digits
  split <;> simp

theorem readDigits_append (value : Nat) (s t : List Char) :
    readDigits value (s ++ t) = (readDigits value s).bind fun v => readDigits v t := by
  induction s generalizing value with
  | nil => rfl
  | cons c rest ih =>
      simp only [List.cons_append, readDigits]
      split
      · rfl
      · exact ih _

/-- Reading the digits of a number gives the number. -/
theorem readDigits_digits (n : Nat) : readDigits 0 (digits n) = some n := by
  induction n using Nat.strongRecOn with
  | ind n ih =>
      unfold digits
      split
      · rename_i h
        simp [readDigits, digitValue?_digitChar h]
      · rename_i h
        have hmod : n % 10 < 10 := Nat.mod_lt n (by decide)
        rw [readDigits_append, ih (n / 10) (by omega)]
        simp only [Option.bind_some, readDigits, digitValue?_digitChar hmod]
        congr 1
        omega

@[simp]
theorem parseNat?_digits (n : Nat) : parseNat? (digits n) = some n := by
  simp [parseNat?, digits_ne_nil, readDigits_digits]

/-- The characters of a number are digits. -/
theorem exists_of_mem_digits {n : Nat} {c : Char} (mem : c ∈ digits n) :
    ∃ digit < 10, c = digitChar digit := by
  induction n using Nat.strongRecOn with
  | ind n ih =>
      unfold digits at mem
      split at mem
      · rename_i small
        exact ⟨n, small, List.mem_singleton.mp mem⟩
      · rename_i large
        rcases List.mem_append.mp mem with before | last
        · exact ih (n / 10) (by omega) before
        · exact ⟨n % 10, Nat.mod_lt n (by decide), List.mem_singleton.mp last⟩

/-- The first digit of a number is no sign. -/
theorem digits_head_ne_sign (n : Nat) :
    ∃ c rest, digits n = c :: rest ∧ c ≠ '-' ∧ c ≠ '+' := by
  have digit_ne : ∀ m, m < 10 → digitChar m ≠ '-' ∧ digitChar m ≠ '+' := by decide
  induction n using Nat.strongRecOn with
  | ind n ih =>
      unfold digits
      split
      · rename_i h
        exact ⟨digitChar n, [], rfl, (digit_ne n h).1, (digit_ne n h).2⟩
      · rename_i h
        obtain ⟨c, rest, hrest, hminus, hplus⟩ := ih (n / 10) (by omega)
        exact ⟨c, rest ++ [digitChar (n % 10)], by simp [hrest], hminus, hplus⟩

/-- Reading the decimal form of an integer gives the integer. -/
@[simp]
theorem parseInt?_render (n : Int) : parseInt? (render n) = some n := by
  unfold render
  split
  · rw [parseInt?, parseNat?_digits, Option.map_some]
    simp only [Int.ofNat_eq_natCast, Option.some.injEq]
    omega
  · obtain ⟨c, rest, hdigits, hminus, hplus⟩ := digits_head_ne_sign n.natAbs
    have hparse : parseInt? (digits n.natAbs) = (parseNat? (digits n.natAbs)).map Int.ofNat := by
      rw [hdigits]
      unfold parseInt?
      split
      · rename_i heq
        exact absurd (List.cons.inj heq).1 hminus
      · rename_i heq
        exact absurd (List.cons.inj heq).1 hplus
      · rfl
    rw [hparse, parseNat?_digits, Option.map_some]
    simp only [Int.ofNat_eq_natCast, Option.some.injEq]
    omega

end Magnetometer.Number.Decimal
