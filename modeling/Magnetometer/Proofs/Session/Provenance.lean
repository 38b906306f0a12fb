import Magnetometer.Proofs.Session.Call
import Mathlib.Data.Nat.ModEq

/-!
# Where an offset comes from

Every tenth sample derives the offset anew, whatever calls come between them, and
a restore takes over the axes that it finds.  Nothing else sets an offset, so that
the one in force on an axis is the last one that was set, or zero if none was.
-/

namespace Magnetometer

namespace AxisCalibration

@[simp]
theorem fuse_observe (axis : AxisCalibration) (count : Int16) :
    (axis.observe count).fuse = axis.fuse := rfl

@[simp]
theorem fuse_derive (axis : AxisCalibration) : axis.derive.fuse = axis.fuse := by
  cases axis
  rfl

@[simp]
theorem fuse_restore (axis : AxisCalibration) (stored : Option Int32) :
    (axis.restore stored).fuse = axis.fuse := by
  cases stored <;> rfl

end AxisCalibration

namespace Session

open AxisCalibration (offsetOfRange)
open CalibrationStore (held)

variable {σ κ : Type} [CalibrationStore σ]

/-- The calls in order, each with the session that it is made on. -/
def passes (s : Session) : List (Call σ κ) → List (Session × Call σ κ)
  | [] => []
  | call :: rest => (s, call) :: (s.perform call).passes rest

/-- The sample that a call takes in. -/
def Call.sample? : Call σ κ → Option Sample
  | .ingest sample => some sample
  | .publish _ _ | .persist _ | .restore _ => none

/-- The samples that some calls take in. -/
def samples (calls : List (Call σ κ)) : List Sample := calls.filterMap Call.sample?

/-- Whether a call that takes in a sample tells that the offset was derived anew. -/
def derived? : Session × Call σ κ → Option Bool
  | (s, call) => call.sample?.map fun sample => (s.ingest sample).2

/-- The offset to which a call sets an axis: what is derived from the range with the
sample in it, or what a restore finds. -/
def setting? (sensitivity : Sensitivity) (axis : Axis) : Session × Call σ κ → Option Int32
  | (s, .ingest sample) =>
      if (s.ingest sample).2 then
        some (offsetOfRange (sensitivity.get axis)
          ((s.calibrator.get axis).range.update (sample.get axis)))
      else
        none
  | (_, .restore store) => (held store).get axis
  | (_, .publish _ _) | (_, .persist _) => none

/-! ## Cadence -/

theorem count_perform (s : Session) (call : Call σ κ) :
    (s.perform call).count = s.count + call.sample?.toList.length := by
  cases call with
  | ingest sample => rfl
  | publish timestamp sink => rfl
  | persist store => rfl
  | restore store => exact congrArg Recent.count (recent_restore s store)

/-- A count is due exactly if it is a multiple of the interval. -/
theorem isDue_succ (count : Nat) :
    Calibrator.isDue (count + 1) = decide (Calibrator.interval ∣ count + 1) := by
  simp [Calibrator.isDue, Nat.dvd_iff_mod_eq_zero, Bool.beq_eq_decide_eq]

/-- The samples are numbered on from the count of the session, and those whose
number is a multiple of the interval derive the offset. -/
theorem filterMap_derived?_passes (s : Session) (calls : List (Call σ κ)) :
    (s.passes calls).filterMap derived? =
      (List.range' (s.count + 1) (samples calls).length).map fun number =>
        decide (Calibrator.interval ∣ number) := by
  induction calls generalizing s with
  | nil => rfl
  | cons call rest ih =>
      rw [passes, samples, List.filterMap_cons, List.filterMap_cons, ih, count_perform]
      cases taken : call.sample? with
      | none => simp [derived?, taken, samples]
      | some sample =>
          simp only [derived?, taken, Option.map_some, Option.toList_some,
            List.length_cons, List.range'_succ, List.map_cons, derived_ingest, isDue_succ]
          rfl

/-- Of the first few numbers one in so many is a multiple of the interval. -/
theorem count_true_range' (length : Nat) :
    ((List.range' 1 length).map fun number => decide (Calibrator.interval ∣ number)).count true =
      length / Calibrator.interval := by
  induction length with
  | zero => rfl
  | succ length ih =>
      rw [List.range'_1_concat, List.map_append, List.count_append, ih, Nat.succ_div,
        Nat.add_comm 1]
      congr 1
      by_cases due : Calibrator.interval ∣ length + 1
      · simp [due]
      · simp [due]

/-! ## Provenance -/

/-- No call changes a fuse byte. -/
theorem fuse_perform (s : Session) (call : Call σ κ) (axis : Axis) :
    ((s.perform call).calibrator.get axis).fuse = (s.calibrator.get axis).fuse := by
  cases call with
  | ingest sample =>
      rw [perform_ingest, get_ingest]
      split <;> simp
  | publish timestamp sink => rfl
  | persist store => rfl
  | restore store => simp [get_restore]

/-- A call sets the offset of an axis, or leaves it as it is. -/
theorem offset_perform {sensitivity : Sensitivity} {s : Session} {axis : Axis}
    (fuse_eq : (s.calibrator.get axis).fuse = sensitivity.get axis) (call : Call σ κ) :
    (s.perform call).offset.get axis =
      (setting? sensitivity axis (s, call)).getD (s.offset.get axis) := by
  rw [get_offset, get_offset]
  cases call with
  | ingest sample =>
      rw [perform_ingest, get_ingest, setting?, ← fuse_eq]
      split <;> rfl
  | publish timestamp sink => rfl
  | persist store => rfl
  | restore store =>
      rw [perform_restore, get_restore, setting?]
      cases (held store).get axis <;> rfl

/-- The offset of an axis is the last one to which a call has set it. -/
theorem offset_performAll {sensitivity : Sensitivity} {s : Session} {axis : Axis}
    (fuse_eq : (s.calibrator.get axis).fuse = sensitivity.get axis) (calls : List (Call σ κ)) :
    (s.performAll calls).offset.get axis =
      ((s.passes calls).filterMap (setting? sensitivity axis)).getLast?.getD
        (s.offset.get axis) := by
  induction calls generalizing s with
  | nil => rfl
  | cons call rest ih =>
      rw [performAll_cons, ih ((fuse_perform s call axis).trans fuse_eq), offset_perform fuse_eq,
        passes, List.filterMap_cons]
      cases setting? sensitivity axis (s, call) with
      | none => rfl
      | some offset => simp [List.getLast?_cons]

/-- What a call leaves as it is: the whole session, unless it takes in a sample or
restores an axis that it finds, and under every restore the recent samples and the
axes that it does not find. -/
def Spares : Session × Call σ κ → Prop
  | (_, .ingest _) => True
  | (s, .publish timestamp sink) => s.perform (.publish timestamp sink : Call σ κ) = s
  | (s, .persist store) => s.perform (.persist store : Call σ κ) = s
  | (s, .restore store) =>
      (held store = .empty → (s.restore store).session = s) ∧
        (s.restore store).session.recent = s.recent ∧
        ∀ axis, (held store).get axis = none →
          (s.restore store).session.calibrator.get axis = s.calibrator.get axis

theorem spares (pass : Session × Call σ κ) : Spares pass := by
  obtain ⟨s, call⟩ := pass
  cases call with
  | ingest sample => exact True.intro
  | publish timestamp sink => exact perform_publish s timestamp sink
  | persist store => exact perform_persist s store
  | restore store =>
      refine ⟨restore_of_held_eq_empty s, recent_restore s store, ?_⟩
      intro axis absent
      rw [get_restore, absent]
      rfl

/-- What has become of a fresh session after some calls: which samples derived the
offset, where the offset comes from, and what no call has changed. -/
structure Provenance (sensitivity : Sensitivity) (calls : List (Call σ κ)) : Prop where
  /-- A sample derives the offset exactly if its number is a multiple of ten. -/
  cadence : ((new sensitivity).passes calls).filterMap derived? =
    (List.range' 1 (samples calls).length).map fun number =>
      decide (Calibrator.interval ∣ number)
  derivations : (((new sensitivity).passes calls).filterMap derived?).count true =
    (samples calls).length / Calibrator.interval
  /-- The offset in force is the last one that was set, and zero before that. -/
  offset_eq : ∀ axis, ((new sensitivity).performAll calls).offset.get axis =
    (((new sensitivity).passes calls).filterMap (setting? sensitivity axis)).getLast?.getD 0
  spared : ∀ pass ∈ (new sensitivity).passes calls, Spares pass

/-- Every session comes by its offset in this way, whatever calls are made on it. -/
theorem provenance_of_performAll (sensitivity : Sensitivity) (calls : List (Call σ κ)) :
    Provenance sensitivity calls := by
  have cadence : ((new sensitivity).passes calls).filterMap derived? =
      (List.range' 1 (samples calls).length).map fun number =>
        decide (Calibrator.interval ∣ number) :=
    filterMap_derived?_passes (new sensitivity) calls
  constructor
  case cadence => exact cadence
  case derivations => rw [cadence, count_true_range']
  case offset_eq =>
    intro axis
    have fuse_eq : ((new sensitivity).calibrator.get axis).fuse = sensitivity.get axis := by simp
    have zero : (new sensitivity).offset.get axis = 0 := by simp
    rw [offset_performAll fuse_eq, zero]
  case spared => exact fun pass _ => spares pass

end Session

end Magnetometer
