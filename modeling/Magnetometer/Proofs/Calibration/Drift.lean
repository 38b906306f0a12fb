import Magnetometer.Proofs.Calibration.Observed
import Magnetometer.Proofs.Calibration.Returned
import Magnetometer.Proofs.Store.Lawful

/-!
# Drift over restarts

A restart takes over the stored offset, and the offset that is derived next is
stored in its place.  If the samples bring nothing new this is the offset that
the stored one gives back, whatever the samples are and wherever it is stored.
The errors of restarts add up: the offset goes toward zero, by a few units each
time.  It never goes away from zero by more than three units.
-/

namespace Magnetometer

open CalibrationStore (held)

namespace CalibrationStore

/-- A store that holds an axis can be loaded. -/
theorem exists_load_of_held {σ : Type} [CalibrationStore σ] {store : σ} {axis : Axis}
    {offset : Int32} (holds : (held store).get axis = some offset) :
    ∃ stored, (load store).result = .ok stored ∧ stored.get axis = some offset := by
  unfold held at holds
  cases loaded : (load store).result with
  | ok stored =>
      rw [loaded, StoredOffset.found_ok] at holds
      exact ⟨stored, rfl, holds⟩
  | error error =>
      rw [loaded, StoredOffset.found_error, StoredOffset.empty, Triple.get_replicate] at holds
      contradiction

end CalibrationStore

namespace Session

open AxisCalibration

/-! ## Samples that bring nothing new -/

/-- The session after some samples. -/
def ingestAll (s : Session) (samples : List Sample) : Session :=
  samples.foldl (fun s sample => (s.ingest sample).1) s

/-- Nothing in the samples widens the range of an axis. -/
def BringNothing (r : Range) (axis : Axis) (samples : List Sample) : Prop :=
  ∀ sample ∈ samples, r.min ≤ sample.get axis ∧ sample.get axis ≤ r.max

instance (r : Range) (axis : Axis) (samples : List Sample) :
    Decidable (BringNothing r axis samples) :=
  inferInstanceAs (Decidable (∀ sample ∈ samples, _ ∧ _))

variable {s : Session} {axis : Axis} {r : Range} {fuse : UInt8} {offset : Int32}

/-- A sample that brings nothing new. -/
theorem get_ingest_of_within {sample : Sample} (minSet : r.min ≠ 0) (maxSet : r.max ≠ 0)
    (calibration : s.calibrator.get axis = ⟨fuse, offset, r⟩)
    (above : r.min ≤ sample.get axis) (below : sample.get axis ≤ r.max) :
    (s.ingest sample).1.calibrator.get axis =
      ⟨fuse, if Calibrator.isDue (s.count + 1) then offsetOfRange fuse r else offset, r⟩ := by
  rw [get_ingest, derived_ingest, calibration, observe, Range.update_of_within minSet maxSet above
    below]
  split <;> rfl

/-- Samples that bring nothing new leave the range alone, and the offset becomes
that of the range once it is due. -/
theorem get_ingestAll {samples : List Sample} (minSet : r.min ≠ 0) (maxSet : r.max ≠ 0)
    (calibration : s.calibrator.get axis = ⟨fuse, offset, r⟩)
    (nothing : BringNothing r axis samples)
    (due : offset = offsetOfRange fuse r ∨
      Calibrator.interval ≤ s.count % Calibrator.interval + samples.length) :
    (s.ingestAll samples).calibrator.get axis = ⟨fuse, offsetOfRange fuse r, r⟩ := by
  induction samples generalizing s offset with
  | nil =>
      rcases due with rfl | enough
      · exact calibration
      · exact absurd enough (Nat.not_le.mpr (Nat.mod_lt s.count (by decide)))
  | cons sample rest ih =>
      obtain ⟨⟨above, below⟩, nothingRest⟩ := List.forall_mem_cons.mp nothing
      apply ih (get_ingest_of_within minSet maxSet calibration above below) nothingRest
      by_cases now : Calibrator.isDue (s.count + 1) = true
      · exact .inl (if_pos now)
      · rcases due with rfl | enough
        · exact .inl (ite_self _)
        · right
          rw [count_ingest]
          exact Calibrator.enough_of_not_isDue now enough

/-! ## Restarts -/

section

variable {σ : Type} [CalibrationStore σ]

/-- A fresh session that takes over what is stored, takes in some samples and
stores its offset. -/
def restart (sensitivity : Sensitivity) (store : σ) (samples : List Sample) : Access σ Bool :=
  (((new sensitivity).restore store).session.ingestAll samples).persist
    ((new sensitivity).restore store).store

/-- A restart that brings nothing new on an axis: it takes in enough samples to
derive the offset, all of them between the seeds of the stored one, neither seed
is zero or held at a bound, and the offset is stored. -/
structure Idle (sensitivity : Sensitivity) (axis : Axis) (store : σ) (offset : Int32)
    (samples : List Sample) : Prop where
  holds : (held store).get axis = some offset
  fits : Fits (sensitivity.get axis) offset
  enough : Calibrator.interval ≤ samples.length
  nothing : BringNothing (seed (sensitivity.get axis) offset) axis samples
  stored : (restart sensitivity store samples).result = .ok true

/-- A number of restarts that bring nothing new on an axis, from one store to
another. -/
inductive Restarts (sensitivity : Sensitivity) (axis : Axis) (first : σ) : Nat → σ → Prop
  | none : Restarts sensitivity axis first 0 first
  | next {count : Nat} {store : σ} {offset : Int32} {samples : List Sample}
      (before : Restarts sensitivity axis first count store)
      (idle : Idle sensitivity axis store offset samples) :
      Restarts sensitivity axis first (count + 1) (restart sensitivity store samples).store

variable {sensitivity : Sensitivity} {store first last : σ} {samples : List Sample}

/-- The calibration of an axis at the end of a restart that brings nothing new. -/
theorem Idle.get_calibrator (idle : Idle sensitivity axis store offset samples) :
    ((((new sensitivity).restore store).session.ingestAll samples).calibrator.get axis) =
      ⟨sensitivity.get axis, returned (sensitivity.get axis) offset,
        seed (sensitivity.get axis) offset⟩ := by
  obtain ⟨stored, loaded, found⟩ := CalibrationStore.exists_load_of_held idle.holds
  have restored := get_restore_of_load (s := new sensitivity) loaded found
  rw [calibrator_new, Calibrator.get_new] at restored
  exact get_ingestAll idle.fits.minSet idle.fits.maxSet restored idle.nothing
    (.inr (Nat.le_add_left_of_le idle.enough))

/-- A restart that brings nothing new stores the offset that the stored one gives
back. -/
theorem Idle.held_restart [LawfulStore σ] (idle : Idle sensitivity axis store offset samples) :
    (held (restart sensitivity store samples).store).get axis =
      some (returned (sensitivity.get axis) offset) := by
  have calibration := idle.get_calibrator
  have observed : (((new sensitivity).restore store).session.ingestAll
      samples).calibrator.hasObservations = true := by
    refine Calibrator.hasObservations_eq_true_iff.mpr ⟨axis, ?_⟩
    rw [calibration]
    exact isUnset_seed _ _
  have written := idle.stored
  unfold restart persist at written ⊢
  rw [if_pos observed] at written ⊢
  cases saved : (CalibrationStore.save ((new sensitivity).restore store).store
      (((new sensitivity).restore store).session.ingestAll samples).offset).result with
  | error error =>
      unfold Access.map at written
      rw [saved] at written
      contradiction
  | ok =>
      change (held (CalibrationStore.save _ _).store).get axis = _
      rw [LawfulStore.held_save _ _ saved, StoredOffset.ofOffset, Triple.get_map, get_offset,
        calibration]

/-- What restarts that bring nothing new make of a stored offset. -/
structure Drifted (fuse : UInt8) (offset : Int32) (restarts : Nat) (stored : Int32) : Prop where
  /-- The offset is given back once for each restart. -/
  iterated : stored = (returned fuse)^[restarts] offset
  /-- Each restart adds four units at most. -/
  close : |stored.toInt - offset.toInt| ≤ 4 * restarts
  /-- Only three units of them can be away from zero. -/
  grown : |stored.toInt| ≤ |offset.toInt| + 3

/-- What is before a barrier stays before it in every restart that brings nothing
new. -/
theorem held_of_restarts [LawfulStore σ] {count : Nat} {bound : ℚ}
    (restarts : Restarts sensitivity axis first count last)
    (holds : (held first).get axis = some offset)
    (barrier : Barrier (sensitivity.get axis) bound) (within : |(offset.toInt : ℚ)| ≤ bound) :
    ∃ stored, (held last).get axis = some stored ∧
      stored = (returned (sensitivity.get axis))^[count] offset ∧
      |stored.toInt - offset.toInt| ≤ 4 * count ∧ |(stored.toInt : ℚ)| ≤ bound := by
  induction restarts with
  | none => exact ⟨offset, holds, rfl, by simp, within⟩
  | next before idle ih =>
      obtain ⟨stored, holdsStored, iterated, close, before_bound⟩ := ih
      obtain rfl : _ = stored := Option.some.inj (idle.holds.symm.trans holdsStored)
      refine ⟨_, idle.held_restart, ?_, ?_, idle.fits.abs_returned_le barrier before_bound⟩
      · rw [Function.iterate_succ_apply', ← iterated]
      · have step := idle.fits.abs_returned_sub_le
        push_cast
        rw [abs_le] at close step ⊢
        constructor <;> linarith

/-- Restarts that bring nothing new move the stored offset by a few units each,
and away from zero by no more than three units altogether. -/
theorem drifted_of_restarts [LawfulStore σ] {count : Nat}
    (restarts : Restarts sensitivity axis first count last)
    (holds : (held first).get axis = some offset) :
    ∃ stored, (held last).get axis = some stored ∧
      Drifted (sensitivity.get axis) offset count stored := by
  obtain ⟨bound, barrier, within, bound_lt⟩ := exists_barrier (sensitivity.get axis) offset
  obtain ⟨stored, holdsStored, iterated, close, stored_le⟩ :=
    held_of_restarts restarts holds barrier within
  refine ⟨stored, holdsStored, iterated, close, ?_⟩
  have grown : |(stored.toInt : ℚ)| < |(offset.toInt : ℚ)| + 4 := by linarith
  have grown' : |stored.toInt| < |offset.toInt| + 4 := by exact_mod_cast grown
  omega

end

/-! ## An offset that drifts -/

/-- A field that stays the same. -/
def steady : List Sample := .replicate Calibrator.interval (.replicate 300)

/-- A store in memory with one offset on every axis, after some restarts. -/
def storedAt (offset : Int32) (restarts : Nat) : MemoryStore :=
  ⟨.replicate (some offset), restarts, restarts⟩

/-- A restart in a steady field. -/
theorem Restarts.steady {first : MemoryStore} {count : Nat} {before : Int32} (after : Int32)
    (restarts : Restarts (.replicate 170) .x first count (storedAt before count))
    (fits : Fits 170 before) (nothing : BringNothing (seed 170 before) .x steady)
    (stored : (restart (.replicate 170) (storedAt before count) steady).result = .ok true)
    (turns : (restart (.replicate 170) (storedAt before count) steady).store =
      storedAt after (count + 1)) :
    Restarts (.replicate 170) .x first (count + 1) (storedAt after (count + 1)) := by
  have next := restarts.next ⟨rfl, fits, Nat.le_refl _, nothing, stored⟩
  rwa [turns] at next

/-- Three restarts in a steady field. -/
theorem restarts_steady : Restarts (.replicate 170) .x (storedAt 1000 0) 3 (storedAt 993 3) := by
  have once : Restarts (.replicate 170) .x (storedAt 1000 0) 1 (storedAt 998 1) :=
    Restarts.none.steady 998 (by decide +kernel) (by decide +kernel) (by decide +kernel)
      (by decide +kernel)
  have twice : Restarts (.replicate 170) .x (storedAt 1000 0) 2 (storedAt 996 2) :=
    once.steady 996 (by decide +kernel) (by decide +kernel) (by decide +kernel)
      (by decide +kernel)
  exact twice.steady 993 (by decide +kernel) (by decide +kernel) (by decide +kernel)
    (by decide +kernel)

/-- In a steady field three restarts move an offset by seven units, no more than
restarts may. -/
theorem drifted_of_restarts_steady :
    Restarts (.replicate 170) .x (storedAt 1000 0) 3 (storedAt 993 3) ∧
      (held (storedAt 1000 0)).get .x = some 1000 ∧
      ∃ stored, (held (storedAt 993 3)).get .x = some stored ∧ Drifted 170 1000 3 stored :=
  ⟨restarts_steady, rfl, drifted_of_restarts restarts_steady rfl⟩

/-- Restarts that bring nothing new do not keep an offset within five units. -/
theorem not_within_five_of_restarts :
    ¬∀ (sensitivity : Sensitivity) (axis : Axis) (first last : MemoryStore) (count : Nat)
      (offset stored : Int32), Restarts sensitivity axis first count last →
      (held first).get axis = some offset → (held last).get axis = some stored →
      |stored.toInt - offset.toInt| ≤ 5 := by
  intro within
  have close := within _ _ _ _ _ 1000 993 restarts_steady rfl rfl
  revert close
  decide

end Session

end Magnetometer
