import Magnetometer.Number.Decimal
import Mathlib.Data.Nat.Digits.Defs

/-!
# What is read as an integer

An integer is read from one or more ASCII digits after at most one sign, and from
nothing else.  It is the number that the digits have by their places; zeros before
it do not matter, and there is no bound on the number of digits.
-/

namespace Magnetometer.Number.Decimal

variable {text : List Char}

/-- The number that digits have by their places. -/
def placeValue (digits : List Char) : Nat :=
  Nat.ofDigits 10 (digits.reverse.map fun c => c.toNat - '0'.toNat)

/-- One or more ASCII digits, with their number. -/
structure Digits (text : List Char) (n : Nat) : Prop where
  begun : text ≠ []
  ascii : ∀ c ∈ text, c.isDigit = true
  value : placeValue text = n

/-- Digits after at most one sign, with their number. -/
inductive Numeral : List Char → Int → Prop
  | unsigned {text : List Char} {n : Nat} (digits : Digits text n) : Numeral text n
  | plus {text : List Char} {n : Nat} (digits : Digits text n) : Numeral ('+' :: text) n
  | minus {text : List Char} {n : Nat} (digits : Digits text n) : Numeral ('-' :: text) (-n)

/-! ## Digits -/

theorem isDigit_iff (c : Char) : c.isDigit = true ↔ 48 ≤ c.toNat ∧ c.toNat ≤ 57 := by
  simp only [Char.isDigit, ge_iff_le, Bool.and_eq_true, decide_eq_true_eq, UInt32.le_iff_toNat_le]
  rfl

theorem digitValue?_eq_some_iff {c : Char} {digit : Nat} :
    digitValue? c = some digit ↔ c.isDigit = true ∧ c.toNat - '0'.toNat = digit := by
  rw [isDigit_iff, digitValue?]
  split
  · rename_i inside
    simp [inside]
  · rename_i outside
    simp [outside]

/-- The first of some digits counts the more, the more digits follow it. -/
theorem placeValue_cons (c : Char) (rest : List Char) :
    placeValue (c :: rest) = (c.toNat - '0'.toNat) * 10 ^ rest.length + placeValue rest := by
  simp [placeValue, Nat.ofDigits_append, Nat.add_comm, Nat.mul_comm]

theorem readDigits_eq_some_iff {start n : Nat} :
    readDigits start text = some n ↔
      (∀ c ∈ text, c.isDigit = true) ∧ start * 10 ^ text.length + placeValue text = n := by
  induction text generalizing start with
  | nil => simp [readDigits, placeValue]
  | cons c rest ih =>
      have shift (digit : Nat) : (start * 10 + digit) * 10 ^ rest.length + placeValue rest =
          start * 10 ^ (rest.length + 1) + (digit * 10 ^ rest.length + placeValue rest) := by
        ring
      rw [readDigits, List.forall_mem_cons, List.length_cons, placeValue_cons]
      cases found : digitValue? c with
      | none =>
          have other : c.isDigit ≠ true := by
            intro digit
            cases found.symm.trans (digitValue?_eq_some_iff.mpr ⟨digit, rfl⟩)
          simp [other]
      | some digit =>
          obtain ⟨ascii, rfl⟩ := digitValue?_eq_some_iff.mp found
          simp only [ih, shift, ascii, true_and]

theorem parseNat?_eq_some_iff {n : Nat} : parseNat? text = some n ↔ Digits text n := by
  unfold parseNat?
  split
  · rename_i empty
    refine iff_of_false nofun ?_
    rintro ⟨begun, -, -⟩
    exact begun (List.isEmpty_iff.mp empty)
  · rename_i begun
    rw [readDigits_eq_some_iff, Nat.zero_mul, Nat.zero_add]
    constructor
    · rintro ⟨ascii, value⟩
      exact ⟨mt List.isEmpty_iff.mpr begun, ascii, value⟩
    · rintro ⟨-, ascii, value⟩
      exact ⟨ascii, value⟩

/-! ## Signs -/

/-- Digits do not begin with a sign. -/
theorem Digits.not_sign {n : Nat} {sign : Char} {rest : List Char}
    (digits : Digits (sign :: rest) n) : sign ≠ '-' ∧ sign ≠ '+' := by
  have digit : sign.isDigit = true := digits.ascii sign List.mem_cons_self
  constructor <;> rintro rfl <;> contradiction

theorem parseInt?_eq_some_iff {n : Int} : parseInt? text = some n ↔ Numeral text n := by
  constructor
  · intro read
    unfold parseInt? at read
    split at read <;> obtain ⟨m, readNat, rfl⟩ := Option.map_eq_some_iff.mp read
    · exact .minus (parseNat?_eq_some_iff.mp readNat)
    · exact .plus (parseNat?_eq_some_iff.mp readNat)
    · exact .unsigned (parseNat?_eq_some_iff.mp readNat)
  · intro numeral
    cases numeral with
    | plus digits => rw [parseInt?, parseNat?_eq_some_iff.mpr digits, Option.map_some]; rfl
    | minus digits => rw [parseInt?, parseNat?_eq_some_iff.mpr digits, Option.map_some]; rfl
    | unsigned digits =>
        unfold parseInt?
        split
        · exact absurd rfl digits.not_sign.1
        · exact absurd rfl digits.not_sign.2
        · rw [parseNat?_eq_some_iff.mpr digits, Option.map_some]; rfl

/-- The decimal form of an integer is a numeral of it. -/
theorem numeral_render (n : Int) : Numeral (render n) n :=
  parseInt?_eq_some_iff.mp (parseInt?_render n)

/-! ## The characters of a numeral -/

theorem Numeral.ne_nil {n : Int} (numeral : Numeral text n) : text ≠ [] := by
  cases numeral with
  | unsigned digits => exact digits.begun
  | plus digits => exact List.cons_ne_nil _ _
  | minus digits => exact List.cons_ne_nil _ _

/-- Nothing but digits and a sign stands in a numeral. -/
theorem Numeral.mem {n : Int} (numeral : Numeral text n) {c : Char} (mem : c ∈ text) :
    c.isDigit = true ∨ c = '+' ∨ c = '-' := by
  cases numeral with
  | unsigned digits => exact .inl (digits.ascii c mem)
  | plus digits =>
      rcases List.mem_cons.mp mem with rfl | digit
      · exact .inr (.inl rfl)
      · exact .inl (digits.ascii c digit)
  | minus digits =>
      rcases List.mem_cons.mp mem with rfl | digit
      · exact .inr (.inr rfl)
      · exact .inl (digits.ascii c digit)

end Magnetometer.Number.Decimal
