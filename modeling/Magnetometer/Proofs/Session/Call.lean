import Magnetometer.Proofs.Calibration.Observed
import Magnetometer.Proofs.Store.Lawful

/-!
# Calls on a session

A session takes in samples, publishes its field, stores its offset and takes over
a stored one, in whatever order it is called.  A call brings the store or the
sink that it works on, so that nothing is assumed of what has happened to them
since the call before: a load may find all axes, some or none, and fail.
-/

namespace Magnetometer.Session

open CalibrationStore (held)

variable {σ κ : Type}

/-- A call on a session. -/
inductive Call (σ κ : Type) where
  | ingest (sample : Sample)
  | publish (timestamp : UInt64) (sink : κ)
  | persist (store : σ)
  | restore (store : σ)

variable [CalibrationStore σ]

/-- The session after a call; publishing and storing only look at it. -/
def perform (s : Session) : Call σ κ → Session
  | .ingest sample => (s.ingest sample).1
  | .restore store => (s.restore store).session
  | .publish _ _ | .persist _ => s

/-- The session after some calls, one after another. -/
def performAll (s : Session) (calls : List (Call σ κ)) : Session := calls.foldl perform s

@[simp]
theorem perform_ingest (s : Session) (sample : Sample) :
    s.perform (.ingest sample : Call σ κ) = (s.ingest sample).1 := rfl

@[simp]
theorem perform_publish (s : Session) (timestamp : UInt64) (sink : κ) :
    s.perform (.publish timestamp sink : Call σ κ) = s := rfl

@[simp]
theorem perform_persist (s : Session) (store : σ) :
    s.perform (.persist store : Call σ κ) = s := rfl

@[simp]
theorem perform_restore (s : Session) (store : σ) :
    s.perform (.restore store : Call σ κ) = (s.restore store).session := rfl

theorem performAll_cons (s : Session) (call : Call σ κ) (rest : List (Call σ κ)) :
    s.performAll (call :: rest) = (s.perform call).performAll rest := rfl

/-! ## What a restore does -/

section

variable (s : Session) (store : σ)

/-- A restore takes over the axes that the store holds. -/
theorem get_restore (axis : Axis) :
    (s.restore store).session.calibrator.get axis =
      (s.calibrator.get axis).restore ((held store).get axis) := by
  rw [(restore_eq s store).1, get_restoredFrom]
  unfold held
  cases (CalibrationStore.load store).result with
  | ok stored => rfl
  | error error => simp [StoredOffset.empty, Except.toOption]

/-- A restore leaves the recent samples alone. -/
theorem recent_restore : (s.restore store).session.recent = s.recent := by
  rw [(restore_eq s store).1, recent_restoredFrom]

/-- A restore from a store that holds nothing changes nothing. -/
theorem restore_of_held_eq_empty {store : σ} (nothing : held store = .empty) :
    (s.restore store).session = s := by
  have calibrator_eq : (s.restore store).session.calibrator = s.calibrator := by
    apply Triple.ext_get
    intro axis
    rw [get_restore, nothing, StoredOffset.empty, Triple.get_replicate]
    rfl
  exact congrArg₂ Session.mk calibrator_eq (recent_restore s store)

end

/-! ## What every call keeps -/

/-- The extrema stay in order. -/
theorem Ordered.perform {s : Session} (ordered : s.Ordered) (call : Call σ κ) :
    (s.perform call).Ordered := by
  cases call with
  | ingest sample => exact ordered.ingest sample
  | publish timestamp sink => exact ordered
  | persist store => exact ordered
  | restore store =>
      rw [perform_restore, (restore_eq s store).1]
      exact ordered.restoredFrom _

end Magnetometer.Session
