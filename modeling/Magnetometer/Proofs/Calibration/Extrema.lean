import Magnetometer.Calibration.Calibrator
import Mathlib.Data.List.DropRight
import Mathlib.Order.Defs.Unbundled

/-!
# The extrema that counts leave

Zero marks an extremum that is not set, and so a zero reading takes away a least
count that is positive, and with it all that was known of the counts before.  A
least count that is negative stays, since no zero lies before it.  The least
count is therefore the minimum of all counts once one of them is negative, and
that of the counts after the last zero as long as none is.

The greatest count is the same thing in the opposite order.  Both are followed
at once, as the extremum that comes first in some order.
-/

namespace Magnetometer

namespace Range

/-! ## The closed form -/

/-- The counts after the last zero. -/
def sinceZero (counts : List Int16) : List Int16 := counts.rtakeWhile (· ≠ 0)

/-- The counts that an extremum stands for: all of them once one lies before zero,
and those after the last zero as long as none does. -/
def standing (before : Int16 → Int16 → Prop) [DecidableRel before] (counts : List Int16) :
    List Int16 :=
  if ∃ count ∈ counts, before count 0 then counts else sinceZero counts

/-- The least count that counts leave; zero if it stands for none. -/
def leastOf (counts : List Int16) : Int16 := (standing (· < ·) counts).min?.getD 0

/-- The greatest count that counts leave; zero if it stands for none. -/
def greatestOf (counts : List Int16) : Int16 := (standing (· > ·) counts).max?.getD 0

/-! ## One extremum -/

/-- The extremum that comes first in an order, after one more count. -/
def replace (before : Int16 → Int16 → Prop) [DecidableRel before] (kept count : Int16) : Int16 :=
  if before count kept ∨ kept = 0 then count else kept

/-- One of some counts that none of them lies before. -/
def Foremost (before : Int16 → Int16 → Prop) (counts : List Int16) (kept : Int16) : Prop :=
  kept ∈ counts ∧ ∀ count ∈ counts, ¬before count kept

/-- The extremum that counts leave: the foremost of those that it stands for, and
zero if there are none. -/
inductive Leaves (before : Int16 → Int16 → Prop) [DecidableRel before] (counts : List Int16) :
    Int16 → Prop
  | foremost {kept : Int16} (foremost : Foremost before (standing before counts) kept) :
      Leaves before counts kept
  | unset (none : standing before counts = []) : Leaves before counts 0

section

variable {before : Int16 → Int16 → Prop} [DecidableRel before] {counts : List Int16}
  {count kept : Int16}

theorem standing_of_mem (mem : count ∈ counts) (first : before count 0) :
    standing before counts = counts :=
  if_pos ⟨count, mem, first⟩

theorem standing_of_forall (none : ∀ count ∈ counts, ¬before count 0) :
    standing before counts = sinceZero counts := by
  apply if_neg
  rintro ⟨count, mem, first⟩
  exact none count mem first

theorem mem_of_mem_standing (mem : count ∈ standing before counts) : count ∈ counts := by
  unfold standing at mem
  split at mem
  · exact mem
  · exact (List.rtakeWhile_suffix _ _).mem mem

theorem ne_zero_of_mem_sinceZero (mem : count ∈ sinceZero counts) : count ≠ 0 := by
  simpa using List.mem_rtakeWhile_imp mem

theorem sinceZero_concat_zero (counts : List Int16) : sinceZero (counts ++ [0]) = [] :=
  List.rtakeWhile_concat_neg _ _ _ (by simp)

theorem sinceZero_concat (counts : List Int16) (set : count ≠ 0) :
    sinceZero (counts ++ [count]) = sinceZero counts ++ [count] :=
  List.rtakeWhile_concat_pos _ _ _ (by simpa using set)

/-- Counts without a zero are all after the last one. -/
theorem standing_of_zero_not_mem (set : 0 ∉ counts) : standing before counts = counts := by
  have all : sinceZero counts = counts := by
    rw [sinceZero, List.rtakeWhile_eq_self_iff]
    intro count mem
    exact decide_eq_true (ne_of_mem_of_not_mem mem set)
  rw [standing, all, ite_self]

variable [IsStrictTotalOrder Int16 before]

/-- An extremum that does not lie before zero gives way to a count that lies
before zero, and to zero. -/
theorem replace_eq_of_not_before (late : ¬before kept 0) (early : before count 0 ∨ count = 0) :
    replace before kept count = count := by
  apply if_pos
  rcases trichotomous_of before kept 0 with below | unset | above
  · exact absurd below late
  · exact .inr unset
  · rcases early with first | rfl
    · exact .inl (trans_of before first above)
    · exact .inl above

/-- The foremost of some counts and of one more. -/
theorem Foremost.concat (foremost : Foremost before counts kept) (set : kept ≠ 0)
    (count : Int16) : Foremost before (counts ++ [count]) (replace before kept count) := by
  obtain ⟨mem, none⟩ := foremost
  unfold Foremost
  rw [List.forall_mem_append, List.forall_mem_singleton]
  by_cases first : before count kept
  · rw [replace, if_pos (.inl first)]
    refine ⟨List.mem_concat_self, ?_, irrefl_of before count⟩
    intro other otherMem otherFirst
    exact none other otherMem (trans_of before otherFirst first)
  · rw [replace, if_neg (not_or.mpr ⟨first, set⟩)]
    exact ⟨List.mem_append_left _ mem, none, first⟩

omit [DecidableRel before] in
/-- The first count before zero lies before all that there were. -/
theorem foremost_concat_of_forall (none : ∀ other ∈ counts, ¬before other 0)
    (first : before count 0) : Foremost before (counts ++ [count]) count := by
  unfold Foremost
  rw [List.forall_mem_append, List.forall_mem_singleton]
  refine ⟨List.mem_concat_self, ?_, irrefl_of before count⟩
  intro other mem otherFirst
  exact none other mem (trans_of before otherFirst first)

/-- An extremum lies before zero exactly if some count does. -/
theorem Leaves.before_zero_iff (leaves : Leaves before counts kept) :
    before kept 0 ↔ ∃ count ∈ counts, before count 0 := by
  constructor
  · intro first
    cases leaves with
    | foremost foremost => exact ⟨kept, mem_of_mem_standing foremost.1, first⟩
    | unset none => exact absurd first (irrefl_of before 0)
  · rintro ⟨count, mem, first⟩
    cases leaves with
    | foremost foremost =>
        rw [standing_of_mem mem first] at foremost
        rcases trichotomous_of before kept 0 with below | rfl | above
        · exact below
        · exact absurd first (foremost.2 count mem)
        · exact absurd (trans_of before first above) (foremost.2 count mem)
    | unset none =>
        rw [standing_of_mem mem first] at none
        exact absurd (none ▸ mem) List.not_mem_nil

/-- Once a count lies before zero all counts stand, and the next one is compared
with the foremost of them. -/
theorem Leaves.concat_of_before (leaves : Leaves before counts kept) (first : before kept 0)
    (count : Int16) : Leaves before (counts ++ [count]) (replace before kept count) := by
  obtain ⟨other, mem, otherFirst⟩ := leaves.before_zero_iff.mp first
  cases leaves with
  | unset none => exact absurd first (irrefl_of before 0)
  | foremost foremost =>
      rw [standing_of_mem mem otherFirst] at foremost
      apply Leaves.foremost
      rw [standing_of_mem (List.mem_append_left _ mem) otherFirst]
      exact foremost.concat (ne_of_irrefl first) count

/-- As long as no count lies before zero, those after the last zero stand. -/
theorem Leaves.concat_of_not_before (leaves : Leaves before counts kept) (late : ¬before kept 0)
    (count : Int16) : Leaves before (counts ++ [count]) (replace before kept count) := by
  have none : ∀ other ∈ counts, ¬before other 0 := by
    intro other mem first
    exact late (leaves.before_zero_iff.mpr ⟨other, mem, first⟩)
  by_cases first : before count 0
  · rw [replace_eq_of_not_before late (.inl first)]
    apply Leaves.foremost
    rw [standing_of_mem List.mem_concat_self first]
    exact foremost_concat_of_forall none first
  · have noneNow : ∀ other ∈ counts ++ [count], ¬before other 0 :=
      List.forall_mem_append.mpr ⟨none, List.forall_mem_singleton.mpr first⟩
    by_cases zero : count = 0
    · subst zero
      rw [replace_eq_of_not_before late (.inr rfl)]
      apply Leaves.unset
      rw [standing_of_forall noneNow, sinceZero_concat_zero]
    · apply Leaves.foremost
      rw [standing_of_forall noneNow, sinceZero_concat counts zero]
      cases leaves with
      | foremost foremost =>
          rw [standing_of_forall none] at foremost
          exact foremost.concat (ne_zero_of_mem_sinceZero foremost.1) count
      | unset empty =>
          rw [standing_of_forall none] at empty
          rw [empty, replace, if_pos (.inr rfl)]
          exact ⟨List.mem_singleton_self count, by simpa using irrefl_of before count⟩

/-- Counts and one more leave the extremum that the one more makes of theirs. -/
theorem Leaves.concat (leaves : Leaves before counts kept) (count : Int16) :
    Leaves before (counts ++ [count]) (replace before kept count) := by
  by_cases first : before kept 0
  · exact leaves.concat_of_before first count
  · exact leaves.concat_of_not_before first count

theorem Leaves.foldl {start : List Int16} (leaves : Leaves before start kept)
    (counts : List Int16) :
    Leaves before (start ++ counts) (counts.foldl (replace before) kept) := by
  induction counts generalizing start kept with
  | nil => simpa using leaves
  | cons count rest ih => simpa using ih (leaves.concat count)

omit [IsStrictTotalOrder Int16 before] in
theorem leaves_nil : Leaves before [] 0 := .unset (standing_of_zero_not_mem List.not_mem_nil)

theorem leaves_singleton (count : Int16) : Leaves before [count] count := by
  simpa [replace] using leaves_nil.concat count

end

/-! ## Both extrema -/

instance : Std.LawfulOrderMax Int16 where
  max_eq_or a b := by
    change (if a ≤ b then b else a) = a ∨ (if a ≤ b then b else a) = b
    split <;> simp
  max_le_iff a b c := by
    change (if a ≤ b then b else a) ≤ c ↔ _
    split
    · rename_i le
      exact ⟨fun below => ⟨Int16.le_trans le below, below⟩, fun below => below.2⟩
    · rename_i lt
      exact ⟨fun below => ⟨below, Int16.le_trans (Int16.le_of_lt (Int16.not_le.mp lt)) below⟩,
        fun below => below.1⟩

instance : IsStrictTotalOrder Int16 (· < ·) where

variable {counts : List Int16} {kept : Int16}

theorem foremost_lt_iff : Foremost (· < ·) counts kept ↔ counts.min? = some kept := by
  simp [Foremost, List.min?_eq_some_iff, Int16.not_lt]

theorem foremost_gt_iff : Foremost (· > ·) counts kept ↔ counts.max? = some kept := by
  simp [Foremost, List.max?_eq_some_iff, Int16.not_lt]

theorem Leaves.eq_leastOf (leaves : Leaves (· < ·) counts kept) : kept = leastOf counts := by
  cases leaves with
  | foremost foremost => rw [leastOf, foremost_lt_iff.mp foremost, Option.getD_some]
  | unset none => rw [leastOf, none, List.min?_nil, Option.getD_none]

theorem Leaves.eq_greatestOf (leaves : Leaves (· > ·) counts kept) :
    kept = greatestOf counts := by
  cases leaves with
  | foremost foremost => rw [greatestOf, foremost_gt_iff.mp foremost, Option.getD_some]
  | unset none => rw [greatestOf, none, List.max?_nil, Option.getD_none]

/-- The two extrema of a range do not depend on each other. -/
theorem foldl_update_eq (r : Range) (counts : List Int16) :
    counts.foldl update r =
      ⟨counts.foldl (replace (· < ·)) r.min, counts.foldl (replace (· > ·)) r.max⟩ := by
  induction counts generalizing r with
  | nil => rfl
  | cons count rest ih => exact ih (r.update count)

/-- The range that counts make of a first one: that of the counts with its extrema
before them. -/
theorem foldl_update (r : Range) (counts : List Int16) :
    counts.foldl update r = ⟨leastOf (r.min :: counts), greatestOf (r.max :: counts)⟩ := by
  rw [foldl_update_eq]
  exact congrArg₂ Range.mk ((leaves_singleton r.min).foldl counts).eq_leastOf
    ((leaves_singleton r.max).foldl counts).eq_greatestOf

theorem foldl_update_unset (counts : List Int16) :
    counts.foldl update unset = ⟨leastOf counts, greatestOf counts⟩ := by
  rw [foldl_update_eq]
  exact congrArg₂ Range.mk (leaves_nil.foldl counts).eq_leastOf
    (leaves_nil.foldl counts).eq_greatestOf

/-- Without a zero the extrema are the minimum and the maximum. -/
theorem leastOf_of_zero_not_mem (set : 0 ∉ counts) : leastOf counts = counts.min?.getD 0 := by
  rw [leastOf, standing_of_zero_not_mem set]

theorem greatestOf_of_zero_not_mem (set : 0 ∉ counts) :
    greatestOf counts = counts.max?.getD 0 := by
  rw [greatestOf, standing_of_zero_not_mem set]

end Range

namespace Calibrator

open Range

/-- Samples widen the range of an axis by their counts on it. -/
theorem range_foldl_observe (c : Calibrator) (samples : List Sample) (axis : Axis) :
    ((samples.foldl observe c).get axis).range =
      (samples.map (·.get axis)).foldl Range.update (c.get axis).range := by
  induction samples generalizing c with
  | nil => rfl
  | cons sample rest ih =>
      rw [List.foldl_cons, ih, get_observe]
      rfl

/-- What the extrema of an axis mean.  A least count is the minimum of all counts
if one of them is negative, else that of the counts after the last zero; a greatest
count likewise.  A range that was there before counts as two counts more, one for
each extremum, and without a zero the extrema are the minimum and the maximum. -/
theorem range_of_observed (sensitivity : Sensitivity) (samples : List Sample) (axis : Axis) :
    let counts := samples.map (·.get axis)
    let observed := ((samples.foldl observe (new sensitivity)).get axis).range
    observed = ⟨leastOf counts, greatestOf counts⟩ ∧
      (∀ c : Calibrator, ((samples.foldl observe c).get axis).range =
        ⟨leastOf ((c.get axis).range.min :: counts),
          greatestOf ((c.get axis).range.max :: counts)⟩) ∧
      (0 ∉ counts → observed = ⟨counts.min?.getD 0, counts.max?.getD 0⟩) := by
  intro counts observed
  have fresh : ((new sensitivity).get axis).range = .unset := by rw [get_new]
  have closed : observed = ⟨leastOf counts, greatestOf counts⟩ := by
    rw [← foldl_update_unset, ← fresh]
    exact range_foldl_observe _ samples axis
  refine ⟨closed, ?_, ?_⟩
  · intro c
    rw [range_foldl_observe, foldl_update]
  · intro set
    rw [closed, leastOf_of_zero_not_mem set, greatestOf_of_zero_not_mem set]

/-- A zero takes away the least count 3 of the x axis but not the one -4 of the y
axis; the z axis has no zero. -/
theorem range_of_observed_zero :
    let samples : List Sample := [⟨3, -4, 5⟩, ⟨0, 0, 2⟩, ⟨7, 6, 9⟩]
    let c := samples.foldl observe (new .neutral)
    (c.get .x).range = ⟨7, 7⟩ ∧ (c.get .y).range = ⟨-4, 6⟩ ∧
      (0 : Int16) ∉ samples.map (·.get .z) ∧ (c.get .z).range = ⟨2, 9⟩ :=
  ⟨(range_of_observed .neutral _ .x).1, (range_of_observed .neutral _ .y).1, by decide,
    (range_of_observed .neutral _ .z).2.2 (by decide)⟩

end Calibrator

end Magnetometer
