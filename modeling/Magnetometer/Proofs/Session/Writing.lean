import Magnetometer.Proofs.Session.Call

/-!
# When a session writes

A session has observations once it was given something worth keeping: a sample
that is not zero on every axis, or a stored axis.  From then on it has them for
good, whatever zeros and restores follow, and exactly then it tries to save its
offset when it is to store it.
-/

namespace Magnetometer

namespace Range

/-- An extremum is set after a count exactly if one was set before or the count is
not zero. -/
theorem Ordered.isUnset_update_eq_false_iff {r : Range} (ordered : r.Ordered) (count : Int16) :
    (r.update count).isUnset = false ↔ r.isUnset = false ∨ count ≠ 0 := by
  by_cases set : r.isUnset = false
  · exact iff_of_true (ordered.isUnset_update set count) (.inl set)
  · have unset : r = .unset := by
      rw [Bool.not_eq_false, isUnset_eq_true_iff] at set
      exact Range.ext set.1 set.2
    rw [unset, update_unset, isUnset]
    simp

end Range

/-- An extremum is set after a restore exactly if one was set before or the axis
was found. -/
theorem AxisCalibration.isUnset_restore_eq_false_iff (axis : AxisCalibration)
    (stored : Option Int32) :
    (axis.restore stored).range.isUnset = false ↔
      axis.range.isUnset = false ∨ stored ≠ none := by
  cases stored with
  | none => simp [restore]
  | some offset => simp [restore, isUnset_seed]

/-- A store that keeps a list of the offsets that it was to save, whether it saved
them or not. -/
structure Watched (σ : Type) where
  store : σ
  offered : List HardIronOffset

instance {σ : Type} [CalibrationStore σ] : CalibrationStore (Watched σ) where
  load watched := (CalibrationStore.load watched.store).mapStore fun store => { watched with store }
  save watched offset := (CalibrationStore.save watched.store offset).mapStore fun store =>
    ⟨store, watched.offered ++ [offset]⟩

namespace Session

open CalibrationStore (held)

variable {σ κ τ : Type} [CalibrationStore σ] [CalibrationStore τ]

/-- Whether a call brings something worth keeping: a sample that is not zero on
every axis, or a stored axis. -/
def Call.Brings : Call σ κ → Prop
  | .ingest sample => ∃ axis, sample.get axis ≠ 0
  | .restore store => ∃ axis, (held store).get axis ≠ none
  | .publish _ _ | .persist _ => False

/-- A call leaves observations behind exactly if there were some before or it brings
something worth keeping. -/
theorem Ordered.hasObservations_perform_iff {s : Session} (ordered : s.Ordered)
    (call : Call σ κ) :
    (s.perform call).calibrator.hasObservations = true ↔
      s.calibrator.hasObservations = true ∨ call.Brings := by
  rw [Calibrator.hasObservations_eq_true_iff, Calibrator.hasObservations_eq_true_iff]
  cases call with
  | ingest sample =>
      simp only [perform_ingest, range_ingest, (ordered _).isUnset_update_eq_false_iff, exists_or,
        Call.Brings]
  | publish timestamp sink => simp [Call.Brings]
  | persist store => simp [Call.Brings]
  | restore store =>
      simp only [perform_restore, get_restore, AxisCalibration.isUnset_restore_eq_false_iff,
        exists_or, Call.Brings]

theorem Ordered.hasObservations_performAll_iff {s : Session} (ordered : s.Ordered)
    (calls : List (Call σ κ)) :
    (s.performAll calls).calibrator.hasObservations = true ↔
      s.calibrator.hasObservations = true ∨ ∃ call ∈ calls, call.Brings := by
  induction calls generalizing s with
  | nil => simp [performAll]
  | cons call rest ih =>
      rw [performAll_cons, ih (ordered.perform call), ordered.hasObservations_perform_iff,
        List.exists_mem_cons_iff, or_assoc]

theorem hasObservations_new (sensitivity : Sensitivity) :
    (new sensitivity).calibrator.hasObservations = false := rfl

/-- What a session does when it is to store its offset: it tries to save it exactly
if there is something worth keeping, and else leaves the store alone. -/
structure Writes (s : Session) (store : Watched τ) (worth : Prop) : Prop where
  tries : (s.persist store).store.offered = store.offered ++ [s.offset] ↔ worth
  saves : worth →
    (s.persist store).result = (CalibrationStore.save store.store s.offset).result.map fun _ => true
  declines : ¬worth → s.persist store = ⟨store, .ok false, []⟩

theorem writes_of_hasObservations_iff {s : Session} {worth : Prop}
    (observed : s.calibrator.hasObservations = true ↔ worth) (store : Watched τ) :
    s.Writes store worth := by
  by_cases has : s.calibrator.hasObservations = true
  · have persisted : s.persist store = (CalibrationStore.save store s.offset).map fun _ => true :=
      if_pos has
    constructor
    case tries =>
      rw [persisted]
      exact iff_of_true rfl (observed.mp has)
    case saves =>
      intro _
      rw [persisted]
      rfl
    case declines => exact fun worthless => absurd (observed.mp has) worthless
  · have declined : s.persist store = ⟨store, .ok false, []⟩ := if_neg has
    constructor
    case tries =>
      rw [declined]
      exact iff_of_false (by simp) (mt observed.mpr has)
    case saves => exact fun worth => absurd (observed.mpr worth) has
    case declines => exact fun _ => declined

/-- A session writes exactly if some call so far brought something worth keeping,
and once it has observations it has them after all calls that follow. -/
theorem writes_of_performAll (sensitivity : Sensitivity) (calls : List (Call σ κ))
    (store : Watched τ) :
    ((new sensitivity).performAll calls).Writes store (∃ call ∈ calls, call.Brings) ∧
      (((new sensitivity).performAll calls).calibrator.hasObservations = true →
        ∀ more, ((new sensitivity).performAll (calls ++ more)).calibrator.hasObservations =
          true) := by
  have observed_iff (calls : List (Call σ κ)) :
      ((new sensitivity).performAll calls).calibrator.hasObservations = true ↔
        ∃ call ∈ calls, call.Brings := by
    rw [(ordered_new sensitivity).hasObservations_performAll_iff, hasObservations_new]
    simp
  constructor
  · exact writes_of_hasObservations_iff (observed_iff calls) store
  · intro observed more
    obtain ⟨call, mem, brings⟩ := (observed_iff calls).mp observed
    exact (observed_iff _).mpr ⟨call, List.mem_append_left more mem, brings⟩

/-- The sample 3 on the z axis is worth keeping, whatever zeros follow it. -/
theorem writes_of_performAll_zero :
    let calls : List (Call BrokenStore Unit) := [.ingest ⟨0, 0, 3⟩, .ingest .zero, .restore ⟨⟩]
    let s := (new .neutral).performAll calls
    let store : Watched BrokenStore := ⟨⟨⟩, []⟩
    (∃ call ∈ calls, call.Brings) ∧ (s.persist store).store.offered = [s.offset] ∧
      s.calibrator.hasObservations = true ∧
      ((new .neutral).performAll (calls ++ calls)).calibrator.hasObservations = true := by
  intro calls s store
  obtain ⟨writes, stays⟩ := writes_of_performAll .neutral calls store
  have brings : ∃ call ∈ calls, call.Brings := ⟨_, List.mem_cons_self, .z, by decide⟩
  have observed : s.calibrator.hasObservations = true := by decide
  exact ⟨brings, writes.tries.mpr brings, observed, stays observed calls⟩

end Session

end Magnetometer
