import Magnetometer.Notice
import Magnetometer.Recent
import Magnetometer.Sink.Basic
import Magnetometer.Store.Basic

/-!
# Sampling sessions

The state that sampling works on: the calibrator and the recent samples.
Samples are folded in strictly in the order in which they arrive.  Restoring
and persisting go through a store, and a session writes only if it observed
something.
-/

namespace Magnetometer

/-- Calibrator and recent samples of the sampling thread. -/
structure Session where
  calibrator : Calibrator
  recent : Recent
deriving DecidableEq, Repr

namespace Session

variable {σ κ : Type}

/-- The session before its first sample. -/
def new (sensitivity : Sensitivity) : Session := ⟨.new sensitivity, .empty⟩

/-- Offset in force. -/
def offset (s : Session) : HardIronOffset := s.calibrator.offset

/-- Number of samples so far. -/
def count (s : Session) : Nat := s.recent.count

/-- What a restore comes to. -/
structure Restored (σ : Type) where
  session : Session
  store : σ
  /-- What the store gave. -/
  loaded : Except SensorError StoredOffset
  /-- Whether any axis was taken over. -/
  found : Bool
  notices : List Notice

/-- Load the stored offsets.  With nothing stored, or an unreadable store, the
session keeps the calibration it has. -/
def restore [CalibrationStore σ] (s : Session) (store : σ) : Restored σ :=
  match CalibrationStore.load store with
  | ⟨store, .ok stored, notices⟩ =>
      if StoredOffset.isEmpty stored then
        ⟨s, store, .ok stored, false, notices⟩
      else
        let calibrator := s.calibrator.restore stored
        ⟨{ s with calibrator := calibrator }, store, .ok stored, true,
          notices ++ [.restored calibrator.offset]⟩
  | ⟨store, .error error, notices⟩ =>
      ⟨s, store, .error error, false, notices ++ [.unreadable error]⟩

/-- Fold a sample into the recent samples and the calibration, and tell whether
the offset was derived anew. -/
def ingest (s : Session) (sample : Sample) : Session × Bool :=
  let recent := s.recent.record sample
  let (calibrator, derived) := (s.calibrator.observe sample).deriveIfDue recent.count
  (⟨calibrator, recent⟩, derived)

/-- The event of the current field; none before the first sample. -/
def event? (s : Session) (timestamp : UInt64) : Option Event :=
  (s.recent.vector? s.calibrator).map fun vector => ⟨timestamp, vector⟩

/-- Give the event of the current field to a sink. -/
def publish [EventSink κ] (s : Session) (timestamp : UInt64) (sink : κ) :
    Option Event × κ × List Notice :=
  match s.event? timestamp with
  | none => (none, sink, [])
  | some event =>
      let (sink, notices) := EventSink.emit sink event
      (some event, sink, notices)

/-- Write the offset if anything was observed, and tell whether it was written. -/
def persist [CalibrationStore σ] (s : Session) (store : σ) : Access σ Bool :=
  if s.calibrator.hasObservations then
    (CalibrationStore.save store s.offset).map fun _ => true
  else
    ⟨store, .ok false, []⟩

end Session

end Magnetometer
