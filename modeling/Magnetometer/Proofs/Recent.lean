import Magnetometer.Proofs.Number.Error
import Magnetometer.Recent
import Mathlib.Algebra.BigOperators.Group.List.Basic
import Mathlib.Data.List.DropRight
import Mathlib.Data.List.Rotate

/-!
# What the ring averages over

The ring holds the last four samples, or all of them as long as there are no
more; the places are taken in turn, so that their order is not that in which the
samples came.  The order does not matter: sums of so few counts are exact in
single precision.
-/

namespace Magnetometer.Recent

open Number

/-! ## The places of the ring -/

/-- The samples that the ring holds after a sequence of them. -/
def window (samples : List Sample) : List Sample := samples.rtake ringSize

/-- The ring after a sequence of samples: each of the last few stands at the
place that its number falls on. -/
structure Holds (r : Recent) (samples : List Sample) : Prop where
  count_eq : r.count = samples.length
  next_eq : (r.next : Nat) = samples.length % ringSize
  placed : ∀ i < samples.length, samples.length ≤ i + ringSize →
    r.slots.toList[i % ringSize]? = samples[i]?

/-- Before the first sample it does not matter what stands at the places. -/
theorem holds_nil (slots : Vector Sample ringSize) : { empty with slots }.Holds [] :=
  ⟨rfl, rfl, nofun⟩

theorem Holds.record {r : Recent} {samples : List Sample} (holds : r.Holds samples)
    (sample : Sample) : (r.record sample).Holds (samples ++ [sample]) := by
  obtain ⟨count_eq, next_eq, placed⟩ := holds
  have length_eq : (samples ++ [sample]).length = samples.length + 1 := List.length_append
  constructor
  case count_eq => rw [count_record, count_eq, length_eq]
  case next_eq =>
    change ((r.next : Nat) + 1) % ringSize = _
    rw [next_eq, length_eq, Nat.mod_add_mod]
  case placed =>
    intro i inside late
    rw [length_eq] at inside late
    change (r.slots.set r.next sample).toList[i % ringSize]? = _
    rw [Vector.toList_set]
    rcases Nat.lt_or_eq_of_le (Nat.le_of_lt_succ inside) with earlier | rfl
    · have apart : (r.next : Nat) ≠ i % ringSize := by
        rw [next_eq]
        unfold ringSize at late ⊢
        omega
      rw [List.getElem?_set_ne apart, List.getElem?_append_left earlier]
      exact placed i earlier (by omega)
    · rw [← next_eq, List.getElem?_set_self (by simp), List.getElem?_concat_length]

theorem holds_foldl_of_slots (slots : Vector Sample ringSize) (samples : List Sample) :
    (samples.foldl record { empty with slots }).Holds samples := by
  induction samples using List.reverseRecOn with
  | nil => exact holds_nil slots
  | append_singleton samples sample ih =>
      rw [List.foldl_append, List.foldl_cons, List.foldl_nil]
      exact ih.record sample

theorem holds_foldl (samples : List Sample) : (samples.foldl record empty).Holds samples :=
  holds_foldl_of_slots empty.slots samples

/-- As long as the ring is not full its places are filled in order. -/
theorem Holds.filled_of_le {r : Recent} {samples : List Sample} (holds : r.Holds samples)
    (few : samples.length ≤ ringSize) : r.filled = samples := by
  obtain ⟨count_eq, -, placed⟩ := holds
  rw [filled, count_eq, Nat.min_eq_left few]
  apply List.ext_getElem?
  intro i
  rcases Nat.lt_or_ge i samples.length with inside | outside
  · have found := placed i inside (few.trans (Nat.le_add_left _ _))
    rw [Nat.mod_eq_of_lt (inside.trans_le few)] at found
    rw [List.getElem?_take_of_lt inside, found]
  · rw [List.getElem?_eq_none outside, List.getElem?_eq_none]
    exact (List.length_take_le _ _).trans outside

/-- In a full ring the last few samples follow one another from the place of
the oldest one on, and at the end from the first place on. -/
theorem Holds.window_of_ge {r : Recent} {samples : List Sample} (holds : r.Holds samples)
    (full : ringSize ≤ samples.length) :
    window samples = r.filled.rotate (samples.length - ringSize) := by
  obtain ⟨count_eq, -, placed⟩ := holds
  have length_slots : r.slots.toList.length = ringSize := r.slots.length_toList
  have all : r.filled = r.slots.toList := by
    rw [filled, count_eq, Nat.min_eq_right full, List.take_of_length_le length_slots.le]
  have length_window : (window samples).length = ringSize := by
    rw [window, List.rtake, List.length_drop]
    omega
  rw [all]
  apply List.ext_getElem?
  intro i
  rcases Nat.lt_or_ge i ringSize with inside | outside
  · rw [List.getElem?_rotate (inside.trans_eq length_slots.symm), length_slots, window, List.rtake,
      List.getElem?_drop, Nat.add_comm i, placed _ (by omega) (by omega)]
  · rw [List.getElem?_eq_none (length_window.trans_le outside), List.getElem?_eq_none]
    rwa [List.length_rotate, length_slots]

/-- The filled places hold the last few samples in some order. -/
theorem Holds.filled_perm {r : Recent} {samples : List Sample} (holds : r.Holds samples) :
    r.filled.Perm (window samples) := by
  rcases Nat.le_total samples.length ringSize with few | full
  · have all : window samples = samples := by
      rw [window, List.rtake, Nat.sub_eq_zero_of_le few, List.drop_zero]
    rw [holds.filled_of_le few, all]
  · rw [holds.window_of_ge full]
    exact (List.rotate_perm _ _).symm

/-! ## The order of the places -/

/-- An integer of few enough bits is the number of ones that it says. -/
theorem units_ofInt {n : Int} (short : n.natAbs < 2 ^ 24) :
    (Binary.ofInt n : Single).units = n * Format.single.one := by
  have value_eq : (Binary.ofInt n : Single).value = n := (Single.exact_ofInt short).value_eq
  rw [Binary.value, div_eq_iff Binary.one_ne_zero] at value_eq
  exact_mod_cast value_eq

/-- A sum of finite values. -/
theorem add_eq {format : Format} {a b : Binary format} (finiteA : a.isFinite = true)
    (finiteB : b.isFinite = true) :
    a + b = Binary.ofUnits (if a.units + b.units = 0 then a.negative && b.negative
      else decide (a.units + b.units < 0)) (a.units + b.units).natAbs 1 := by
  change Binary.add a b = _
  unfold Binary.add
  rw [Binary.isNaN_eq_false finiteA, Binary.isNaN_eq_false finiteB,
    Binary.isInfinite_eq_false finiteA, Binary.isInfinite_eq_false finiteB]
  rfl

/-- Integers of few enough bits are added without rounding. -/
theorem ofInt_add_ofInt {m n : Int} (shortM : m.natAbs < 2 ^ 24) (shortN : n.natAbs < 2 ^ 24) :
    (Binary.ofInt m + Binary.ofInt n : Single) = Binary.ofInt (m + n) := by
  have finiteM := (Single.exact_ofInt shortM).finite
  have finiteN := (Single.exact_ofInt shortN).finite
  have one_pos : (0 : Int) < Format.single.one := by exact_mod_cast Format.single.one_pos
  have sum_eq : (Binary.ofInt m : Single).units + (Binary.ofInt n : Single).units =
      (m + n) * Format.single.one := by
    rw [units_ofInt shortM, units_ofInt shortN, add_mul]
  rw [add_eq finiteM finiteN, sum_eq, Int.natAbs_mul, Int.natAbs_natCast]
  change Binary.ofUnits _ _ 1 = Binary.ofUnits (decide (m + n < 0)) ((m + n).natAbs * _) 1
  congr 1
  by_cases zero : m + n = 0
  · rw [if_pos (by rw [zero, zero_mul])]
    change (decide (m < 0) && decide (n < 0)) = decide (m + n < 0)
    rw [← Bool.decide_and, decide_eq_decide]
    omega
  · rw [if_neg (mul_ne_zero zero one_pos.ne'), decide_eq_decide]
    exact ⟨fun below => neg_of_mul_neg_left below one_pos.le,
      fun below => mul_neg_of_neg_of_pos below one_pos⟩

/-- Counts few enough that their sums are exact. -/
def exactCounts : Nat := 511

theorem foldl_add_eq {counts : List Int16} {start : Int}
    (short : start.natAbs + counts.length * 2 ^ 15 < 2 ^ 24) :
    (counts.map fun count => (Binary.ofInt count.toInt : Single)).foldl (· + ·)
        (Binary.ofInt start) =
      Binary.ofInt (start + (counts.map Int16.toInt).sum) := by
  induction counts generalizing start with
  | nil => rw [List.map_nil, List.foldl_nil, List.map_nil, List.sum_nil, add_zero]
  | cons count rest ih =>
      have lower := count.le_toInt
      have upper := count.toInt_lt
      rw [List.length_cons] at short
      rw [List.map_cons, List.foldl_cons, ofInt_add_ofInt (by omega) (by omega), ih (by omega),
        List.map_cons, List.sum_cons, add_assoc]

/-- The sum of few counts is exact. -/
theorem sum_eq {counts : List Int16} (few : counts.length ≤ exactCounts) :
    sum counts = Binary.ofInt (counts.map Int16.toInt).sum := by
  have short : (0 : Int).natAbs + counts.length * 2 ^ 15 < 2 ^ 24 := by
    unfold exactCounts at few
    rw [Int.natAbs_zero]
    omega
  rw [sum, foldl_add_eq short, zero_add]

/-- The field of few counts does not depend on their order. -/
theorem fieldOf?_perm {counts other : List Int16} (perm : counts.Perm other)
    (few : counts.length ≤ exactCounts) (axis : AxisCalibration) :
    fieldOf? axis counts = fieldOf? axis other := by
  have sums : sum counts = sum other := by
    rw [sum_eq few, sum_eq (perm.length_eq ▸ few), (perm.map Int16.toInt).sum_eq]
  unfold fieldOf?
  rw [perm.isEmpty_eq, sums, perm.length_eq]

/-! ## What is published -/

/-- A vector is the mean of some samples on every axis, adjusted and freed of the
bias of a calibrator. -/
structure Averages (calibrator : Calibrator) (samples : List Sample) (vector : FieldVector) :
    Prop where
  field : ∀ axis, fieldOf? (calibrator.get axis) (samples.map fun sample => sample.get axis) =
    some (vector.field.get axis)
  accuracy : vector.accuracy = .medium

/-- The field of a ring on an axis is that of the last few samples. -/
theorem Holds.axisField?_eq {r : Recent} {samples : List Sample} (holds : r.Holds samples)
    (calibrator : Calibrator) (axis : Axis) :
    r.axisField? calibrator axis =
      fieldOf? (calibrator.get axis) ((window samples).map fun sample => sample.get axis) := by
  refine fieldOf?_perm (holds.filled_perm.map _) ?_ _
  rw [List.length_map, filled, List.length_take]
  exact (Nat.min_le_left _ _).trans ((Nat.min_le_right _ _).trans (by decide))

/-- The field vector of a ring is the mean of the last few samples. -/
theorem Holds.averages {r : Recent} {samples : List Sample} (holds : r.Holds samples)
    {calibrator : Calibrator} {vector : FieldVector}
    (found : r.vector? calibrator = some vector) :
    Averages calibrator (window samples) vector := by
  unfold vector? at found
  simp only [Option.bind_eq_bind, Option.bind_eq_some_iff, Option.pure_def, Option.some.injEq]
    at found
  obtain ⟨x, xEq, y, yEq, z, zEq, rfl⟩ := found
  refine ⟨fun axis => ?_, rfl⟩
  rw [← holds.axisField?_eq]
  cases axis with
  | x => exact xEq
  | y => exact yEq
  | z => exact zEq

end Magnetometer.Recent
