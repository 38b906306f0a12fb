import Magnetometer.Proofs.Calibration.Accuracy
import Magnetometer.Proofs.Session

/-!
# A restored offset at the next derivation

A restored offset seeds the range of its axis.  Samples between the seeds leave
the range alone, unless a seed is zero: zero marks an extremum that is not set,
and the next sample takes its place.  With both seeds set, the offset that is
derived next is within a few units of the restored one; with one of them zero it
can be as far away as the targets are apart.
-/

namespace Magnetometer

namespace Range

/-- A count inside a range with both extrema set leaves it alone. -/
theorem update_of_within {r : Range} {count : Int16} (minSet : r.min ≠ 0) (maxSet : r.max ≠ 0)
    (above : r.min ≤ count) (below : count ≤ r.max) : r.update count = r := by
  unfold update
  rw [if_neg (not_or.mpr ⟨Int16.not_lt.mpr above, minSet⟩),
    if_neg (not_or.mpr ⟨Int16.not_lt.mpr below, maxSet⟩)]

/-- A least count that is not set gives way to the greatest one. -/
theorem update_max_of_min_eq_zero {r : Range} (unset : r.min = 0) :
    r.update r.max = ⟨r.max, r.max⟩ := by
  unfold update
  rw [if_pos (.inr unset), ite_self]

/-- A greatest count that is not set gives way to the least one. -/
theorem update_min_of_max_eq_zero {r : Range} (unset : r.max = 0) :
    r.update r.min = ⟨r.min, r.min⟩ := by
  unfold update
  rw [ite_self, if_pos (.inr unset)]

/-- The same count again changes nothing. -/
theorem update_update (r : Range) (count : Int16) :
    (r.update count).update count = r.update count := by
  unfold update
  apply Range.ext
  · by_cases below : count < r.min ∨ r.min = 0
    · simp only [if_pos below, ite_self]
    · simp only [if_neg below]
  · by_cases above : r.max < count ∨ r.max = 0
    · simp only [if_pos above, ite_self]
    · simp only [if_neg above]

/-- Counts that are all the same widen a range as one of them does. -/
theorem foldl_update_of_forall_eq {r : Range} {count : Int16} {counts : List Int16}
    (same : ∀ other ∈ counts, other = count) :
    counts.foldl update (r.update count) = r.update count := by
  induction counts with
  | nil => rfl
  | cons other rest ih =>
      obtain ⟨rfl, sameRest⟩ := List.forall_mem_cons.mp same
      rw [List.foldl_cons, update_update]
      exact ih sameRest

/-- Counts inside a range with both extrema set leave it alone. -/
theorem foldl_update_of_within {r : Range} {counts : List Int16} (minSet : r.min ≠ 0)
    (maxSet : r.max ≠ 0) (within : ∀ count ∈ counts, r.min ≤ count ∧ count ≤ r.max) :
    counts.foldl update r = r := by
  induction counts with
  | nil => rfl
  | cons count rest ih =>
      obtain ⟨⟨above, below⟩, withinRest⟩ := List.forall_mem_cons.mp within
      rw [List.foldl_cons, update_of_within minSet maxSet above below]
      exact ih withinRest

end Range

namespace AxisCalibration

open Sensitivity

/-- An offset places a count at a target, but for the rounding of the count. -/
def Places (fuse : UInt8) (offset : Int32) (target : ℚ) (count : Int16) : Prop :=
  |exactScale fuse * count.toInt - (target + 6 / 100 * offset.toInt)| < 1 / 4

variable {fuse : UInt8} {offset : Int32}

theorem places_of_abs_sub_lt {target : ℚ} {count : Int16}
    (close : |(count.toInt : ℚ) - exactCount fuse target offset| < 1 + 1 / 40) :
    Places fuse offset target count := by
  obtain ⟨lower, upper⟩ := exactScale_bounds fuse
  have scale_pos : 0 < exactScale fuse := by linarith
  have field_eq : exactScale fuse * count.toInt - (target + 6 / 100 * offset.toInt) =
      exactScale fuse * (count.toInt - exactCount fuse target offset) := by
    rw [exactCount, mul_sub, mul_div_cancel₀ _ scale_pos.ne']
  rw [Places, field_eq, abs_mul, abs_of_pos scale_pos]
  nlinarith [abs_nonneg ((count.toInt : ℚ) - exactCount fuse target offset)]

theorem places_seed_min (fuse : UInt8) (small : |(offset.toInt : ℚ)| ≤ 40000) :
    Places fuse offset (-45) (seed fuse offset).min :=
  places_of_abs_sub_lt (abs_seed_min_sub_lt fuse small)

theorem places_seed_max (fuse : UInt8) (small : |(offset.toInt : ℚ)| ≤ 40000) :
    Places fuse offset 45 (seed fuse offset).max :=
  places_of_abs_sub_lt (abs_seed_max_sub_lt fuse small)

/-- The offset of a range whose ends an offset places at two targets is that
offset and the middle of the targets. -/
theorem Places.abs_offsetOfRange_sub_lt {s t : ℚ} {min max : Int16}
    (low : Places fuse offset s min) (high : Places fuse offset t max) :
    |((offsetOfRange fuse ⟨min, max⟩).toInt : ℚ) - (offset.toInt + (s + t) / (12 / 100))| < 6 := by
  have close := AxisCalibration.abs_offsetOfRange_sub_lt fuse ⟨min, max⟩
  unfold Places at low high
  rw [exactOffset] at close
  rw [abs_lt] at *
  constructor <;> linarith

/-- The seeds of an offset are apart. -/
theorem seed_min_le_max (fuse : UInt8) (small : |(offset.toInt : ℚ)| ≤ 40000) :
    (seed fuse offset).min ≤ (seed fuse offset).max := by
  obtain ⟨lower, upper⟩ := exactScale_bounds fuse
  have low := abs_lt.mp (places_seed_min fuse small)
  have high := abs_lt.mp (places_seed_max fuse small)
  rw [Int16.le_iff_toInt_le]
  have apart : exactScale fuse * (seed fuse offset).min.toInt <
      exactScale fuse * (seed fuse offset).max.toInt := by linarith
  exact_mod_cast (lt_of_mul_lt_mul_left apart (by linarith)).le

/-- The offset that the seeds of an offset give back is near to it. -/
theorem abs_offsetOfRange_seed_sub_le (small : |(offset.toInt : ℚ)| ≤ 40000) :
    |(offsetOfRange fuse (seed fuse offset)).toInt - offset.toInt| ≤ 5 := by
  have close := (places_seed_min fuse small).abs_offsetOfRange_sub_lt (places_seed_max fuse small)
  rw [neg_add_cancel, zero_div, add_zero] at close
  have whole : |(offsetOfRange fuse (seed fuse offset)).toInt - offset.toInt| < 6 := by
    exact_mod_cast close
  exact Int.le_of_lt_add_one whole

end AxisCalibration

/-- Samples that reach the next multiple still do so behind one that does not. -/
theorem Calibrator.enough_of_not_isDue {count left : Nat} (undue : ¬isDue (count + 1) = true)
    (enough : interval ≤ count % interval + (left + 1)) :
    interval ≤ (count + 1) % interval + left := by
  rw [isDue] at undue
  unfold interval at *
  simp only [bne_iff_ne, Bool.and_eq_true, beq_iff_eq] at undue
  omega

namespace Session

/-- The offset at the first sample at which it is derived. -/
def firstDerived? (s : Session) : List Sample → Option HardIronOffset
  | [] => none
  | sample :: rest =>
      if (s.ingest sample).2 then some (s.ingest sample).1.offset
      else (s.ingest sample).1.firstDerived? rest

/-- The offset is derived at every tenth sample. -/
theorem derived_ingest (s : Session) (sample : Sample) :
    (s.ingest sample).2 = Calibrator.isDue (s.count + 1) := by
  have recorded : (s.recent.record sample).count = s.count + 1 := Recent.count_record _ _
  unfold ingest Calibrator.deriveIfDue
  dsimp only
  rw [recorded]
  split
  · rename_i due
    exact due.symm
  · rename_i undue
    exact (Bool.eq_false_of_not_eq_true undue).symm

theorem count_ingest (s : Session) (sample : Sample) :
    (s.ingest sample).1.count = s.count + 1 := rfl

/-- The calibration of an axis after a sample. -/
theorem get_ingest (s : Session) (sample : Sample) (axis : Axis) :
    (s.ingest sample).1.calibrator.get axis =
      if (s.ingest sample).2 then ((s.calibrator.get axis).observe (sample.get axis)).derive
      else (s.calibrator.get axis).observe (sample.get axis) := by
  rw [derived_ingest, ← Calibrator.get_observe, ← Calibrator.get_deriveIfDue]
  rfl

/-- The first derived offset is the one of the range up to then. -/
theorem exists_of_firstDerived? {s : Session} {samples : List Sample} {offset : HardIronOffset}
    (derived : s.firstDerived? samples = some offset) (axis : Axis) :
    ∃ first seen, first :: seen <+: samples ∧
      offset.get axis = AxisCalibration.offsetOfRange (s.calibrator.get axis).fuse
        (((first :: seen).map (·.get axis)).foldl Range.update (s.calibrator.get axis).range) := by
  induction samples generalizing s with
  | nil => cases derived
  | cons sample rest ih =>
      rw [firstDerived?] at derived
      have after := get_ingest s sample axis
      by_cases due : (s.ingest sample).2 = true
      · rw [if_pos due] at derived after
        cases derived
        refine ⟨sample, [], ⟨rest, rfl⟩, ?_⟩
        rw [get_offset, after]
        rfl
      · rw [if_neg due] at derived after
        obtain ⟨first, seen, start, offset_eq⟩ := ih derived
        refine ⟨sample, first :: seen, List.cons_prefix_cons.mpr ⟨rfl, start⟩, ?_⟩
        rw [offset_eq, after]
        rfl

/-- The offset is derived by the time that the count reaches the next multiple. -/
theorem exists_firstDerived? {s : Session} {samples : List Sample}
    (enough : Calibrator.interval ≤ s.count % Calibrator.interval + samples.length) :
    ∃ offset, s.firstDerived? samples = some offset := by
  induction samples generalizing s with
  | nil => exact absurd enough (Nat.not_le.mpr (Nat.mod_lt s.count (by decide)))
  | cons sample rest ih =>
      rw [firstDerived?]
      by_cases due : (s.ingest sample).2 = true
      · rw [if_pos due]
        exact ⟨_, rfl⟩
      · rw [if_neg due]
        apply ih
        rw [derived_ingest] at due
        rw [count_ingest]
        exact Calibrator.enough_of_not_isDue due enough

/-! ## Survival -/

open AxisCalibration

/-- A stored offset survives the next derivation: in whatever session it is
restored, and whatever samples between its seeds come next, the offset that is
derived first is no more than five units away. -/
def Survives (fuse : UInt8) (offset : Int32) : Prop :=
  ∀ ⦃σ : Type⦄ [CalibrationStore σ] (s : Session) (store : σ) ⦃stored : StoredOffset⦄
    ⦃axis : Axis⦄ ⦃samples : List Sample⦄ ⦃derived : HardIronOffset⦄,
    (CalibrationStore.load store).result = .ok stored → stored.get axis = some offset →
    (s.calibrator.get axis).fuse = fuse →
    (∀ sample ∈ samples, (seed fuse offset).min ≤ sample.get axis ∧
      sample.get axis ≤ (seed fuse offset).max) →
    (s.restore store).session.firstDerived? samples = some derived →
    |(derived.get axis).toInt - offset.toInt| ≤ 5

/-- The calibration of an axis after a restore that found it. -/
theorem get_restore_of_load {σ : Type} [CalibrationStore σ] {s : Session} {store : σ}
    {stored : StoredOffset} {axis : Axis} {offset : Int32}
    (loaded : (CalibrationStore.load store).result = .ok stored)
    (found : stored.get axis = some offset) :
    (s.restore store).session.calibrator.get axis =
      ⟨(s.calibrator.get axis).fuse, offset,
        seed (s.calibrator.get axis).fuse offset⟩ := by
  rw [(restore_eq s store).1, loaded, restoredFrom, StoredOffset.isEmpty_eq_false found]
  simp [found, AxisCalibration.restore]

/-- With both seeds set, the range that is restored is the one that the next
derivation finds. -/
theorem survives_of_seed_ne_zero {fuse : UInt8} {offset : Int32}
    (small : |(offset.toInt : ℚ)| ≤ 40000)
    (minSet : (seed fuse offset).min ≠ 0)
    (maxSet : (seed fuse offset).max ≠ 0) : Survives fuse offset := by
  intro σ _ s store stored axis samples derived loaded found fuse_eq within first
  obtain ⟨sample, seen, start, offset_eq⟩ := exists_of_firstDerived? first axis
  have counts_within : ∀ count ∈ (sample :: seen).map (·.get axis),
      (seed fuse offset).min ≤ count ∧
        count ≤ (seed fuse offset).max := by
    intro count mem
    obtain ⟨other, mem_seen, rfl⟩ := List.mem_map.mp mem
    exact within other (start.subset mem_seen)
  rw [get_restore_of_load loaded found, fuse_eq,
    Range.foldl_update_of_within minSet maxSet counts_within] at offset_eq
  rw [offset_eq]
  exact abs_offsetOfRange_seed_sub_le small

/-- An offset that survives does so when one count between its seeds comes again
and again. -/
theorem Survives.abs_offsetOfRange_update_sub_le {fuse : UInt8} {offset : Int32}
    (survives : Survives fuse offset) {count : Int16}
    (above : (seed fuse offset).min ≤ count)
    (below : count ≤ (seed fuse offset).max) :
    |(offsetOfRange fuse
        ((seed fuse offset).update count)).toInt - offset.toInt| ≤ 5 := by
  let stored : StoredOffset := StoredOffset.empty.set .x (some offset)
  let fresh := Session.new (.replicate fuse)
  have loaded : (CalibrationStore.load (MemoryStore.ofStored stored)).result = .ok stored := rfl
  have found : stored.get .x = some offset := rfl
  have restored := get_restore_of_load (s := fresh) loaded found
  have enough : Calibrator.interval ≤
      (fresh.restore (MemoryStore.ofStored stored)).session.count % Calibrator.interval +
        (List.replicate 10 (Triple.replicate count)).length :=
    Nat.le_add_left _ _
  obtain ⟨derived, first⟩ := exists_firstDerived? enough
  obtain ⟨sample, seen, start, offset_eq⟩ := exists_of_firstDerived? first .x
  have same : ∀ sample ∈ List.replicate 10 (Triple.replicate count), sample.get .x = count := by
    intro sample mem
    rw [List.eq_of_mem_replicate mem]
    exact Triple.get_replicate count .x
  have bound := survives fresh (MemoryStore.ofStored stored) loaded found rfl
    (fun sample mem => by rw [same sample mem]; exact ⟨above, below⟩) first
  have same_seen : ∀ other ∈ seen.map (·.get .x), other = count := by
    intro other mem
    obtain ⟨sample, mem_seen, rfl⟩ := List.mem_map.mp mem
    exact same sample (start.subset (List.mem_cons_of_mem _ mem_seen))
  rw [restored, List.map_cons, List.foldl_cons, same sample (start.subset List.mem_cons_self),
    Range.foldl_update_of_forall_eq same_seen] at offset_eq
  rwa [offset_eq] at bound

/-- An offset does not survive a count that takes the place of both its seeds. -/
theorem not_survives_of_update {fuse : UInt8} {offset : Int32} {count : Int16} {target : ℚ}
    (above : (seed fuse offset).min ≤ count) (below : count ≤ (seed fuse offset).max)
    (taken : (seed fuse offset).update count = ⟨count, count⟩)
    (placed : Places fuse offset target count) (far : 45 ≤ |target|) : ¬ Survives fuse offset := by
  intro survives
  have bound := survives.abs_offsetOfRange_update_sub_le above below
  rw [taken] at bound
  have near : |((offsetOfRange fuse ⟨count, count⟩).toInt : ℚ) - offset.toInt| ≤ 5 := by
    exact_mod_cast bound
  have middle := abs_lt.mp (placed.abs_offsetOfRange_sub_lt placed)
  rw [abs_le] at near
  rcases le_abs.mp far with positive | negative
  · linarith
  · linarith

/-- A stored offset survives exactly when it seeds neither extremum at zero: a
zero is taken for an extremum that is not set, and the next count for it. -/
theorem survives_iff {fuse : UInt8} {offset : Int32} (small : |offset.toInt| ≤ 40000) :
    Survives fuse offset ↔ (seed fuse offset).min ≠ 0 ∧ (seed fuse offset).max ≠ 0 := by
  have small' : |(offset.toInt : ℚ)| ≤ 40000 := by exact_mod_cast small
  have apart := seed_min_le_max fuse small'
  constructor
  · intro survives
    constructor
    · intro unset
      exact not_survives_of_update apart (Int16.le_refl _) (Range.update_max_of_min_eq_zero unset)
        (places_seed_max fuse small') (by norm_num) survives
    · intro unset
      exact not_survives_of_update (Int16.le_refl _) apart (Range.update_min_of_max_eq_zero unset)
        (places_seed_min fuse small') (by norm_num) survives
  · rintro ⟨minSet, maxSet⟩
    exact survives_of_seed_ne_zero small' minSet maxSet

/-- Under the neutral fuse byte the offset 500 survives, and 750, which seeds its
least count at zero, does not. -/
theorem survives_iff_neutral : Survives 128 500 ∧ ¬ Survives 128 750 := by
  constructor
  · exact (survives_iff (by decide)).mpr (by decide +kernel)
  · intro survives
    have set := (survives_iff (by decide)).mp survives
    exact absurd set (by decide +kernel)

end Session

end Magnetometer
