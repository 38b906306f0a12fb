import Magnetometer.Session

/-!
# What a session takes in

The session after a restore depends on what the store gave and on nothing else
of the store, and a session that took in a sample always has an event to
publish.  Runs of the sampling thread can therefore be described by what was
loaded and what was read.
-/

namespace Magnetometer

namespace Recent

/-- Some place of the ring is filled once a sample was recorded. -/
theorem filled_record_ne_nil (r : Recent) (sample : Sample) : (r.record sample).filled ≠ [] := by
  intro empty
  have length_eq : (r.record sample).filled.length = 0 := by rw [empty, List.length_nil]
  rw [filled, List.length_take, Vector.length_toList, count_record] at length_eq
  unfold ringSize at length_eq
  omega

/-- Every axis has a field as soon as some place is filled. -/
theorem exists_axisField? {r : Recent} (filled_ne : r.filled ≠ []) (calibrator : Calibrator)
    (axis : Axis) : ∃ field, r.axisField? calibrator axis = some field := by
  have counts_ne : (r.filled.map fun sample => sample.get axis).isEmpty = false := by
    rw [List.isEmpty_eq_false_iff, ne_eq, List.map_eq_nil_iff]
    exact filled_ne
  unfold axisField? fieldOf?
  rw [if_neg (by rw [counts_ne]; exact Bool.false_ne_true)]
  exact ⟨_, rfl⟩

/-- There is a field vector as soon as some place is filled. -/
theorem exists_vector? {r : Recent} (filled_ne : r.filled ≠ []) (calibrator : Calibrator) :
    ∃ vector, r.vector? calibrator = some vector := by
  obtain ⟨x, x_eq⟩ := exists_axisField? filled_ne calibrator .x
  obtain ⟨y, y_eq⟩ := exists_axisField? filled_ne calibrator .y
  obtain ⟨z, z_eq⟩ := exists_axisField? filled_ne calibrator .z
  exact ⟨⟨⟨x, y, z⟩, .medium⟩, by simp [vector?, x_eq, y_eq, z_eq]⟩

end Recent

namespace Session

variable {σ : Type}

@[simp]
theorem calibrator_new (sensitivity : Sensitivity) :
    (new sensitivity).calibrator = .new sensitivity := rfl

@[simp]
theorem get_offset (s : Session) (axis : Axis) :
    s.offset.get axis = (s.calibrator.get axis).offset :=
  Calibrator.get_offset s.calibrator axis

/-- The session after a restore to which the store gave `loaded`. -/
def restoredFrom (s : Session) : Except SensorError StoredOffset → Session
  | .ok stored =>
      if StoredOffset.isEmpty stored then s
      else { s with calibrator := s.calibrator.restore stored }
  | .error _ => s

/-- A restore leaves the recent samples alone. -/
@[simp]
theorem recent_restoredFrom (s : Session) (loaded : Except SensorError StoredOffset) :
    (s.restoredFrom loaded).recent = s.recent := by
  unfold restoredFrom
  split
  · split <;> rfl
  · rfl

/-- A restore takes over what the store gave and keeps the store that the load
left behind. -/
theorem restore_eq [CalibrationStore σ] (s : Session) (store : σ) :
    (s.restore store).session = s.restoredFrom (CalibrationStore.load store).result ∧
      (s.restore store).loaded = (CalibrationStore.load store).result ∧
      (s.restore store).store = (CalibrationStore.load store).store := by
  unfold restore restoredFrom
  rcases CalibrationStore.load store with ⟨after, result, notices⟩
  cases result with
  | error error => exact ⟨rfl, rfl, rfl⟩
  | ok stored =>
      by_cases empty : StoredOffset.isEmpty stored
      · simp [empty]
      · simp [empty]

theorem restore_session [CalibrationStore σ] (s : Session) (store : σ) :
    (s.restore store).session = s.restoredFrom (s.restore store).loaded := by
  rw [(restore_eq s store).1, (restore_eq s store).2.1]

/-- A session has an event to publish once it took in a sample. -/
theorem exists_event?_ingest (s : Session) (sample : Sample) (timestamp : UInt64) :
    ∃ event, (s.ingest sample).1.event? timestamp = some event := by
  have filled := Recent.filled_record_ne_nil s.recent sample
  obtain ⟨vector, vector_eq⟩ := Recent.exists_vector? filled (s.ingest sample).1.calibrator
  refine ⟨⟨timestamp, vector⟩, ?_⟩
  unfold event?
  rw [show (s.ingest sample).1.recent = s.recent.record sample from rfl, vector_eq]
  rfl

end Session

end Magnetometer
