import Magnetometer.Sample
import Magnetometer.Sensitivity

/-!
# Scripted sources

A source that replays a queue of reads.  Once the queue is empty every read
comes to the same: not ready, or the failure that the source was made for.
-/

namespace Magnetometer

/-- What a scripted read comes to. -/
inductive ScriptedRead where
  | sample (value : Sample)
  | notReady
  | failure
deriving DecidableEq, Repr

/-- A queue of reads with the sensitivity that it reports, if it has one. -/
structure Script where
  sensitivity? : Option Sensitivity
  queue : List ScriptedRead
  /-- What a read comes to once the queue is empty. -/
  fallback : ScriptedRead
  /-- Number of reads so far. -/
  reads : Nat
deriving DecidableEq, Repr

namespace Script

/-- A source that reports a sensitivity and has nothing queued. -/
def new (sensitivity : Sensitivity) : Script := ⟨some sensitivity, [], .notReady, 0⟩

/-- A source without a device. -/
def unavailable : Script := ⟨none, [], .notReady, 0⟩

/-- A source whose reads fail. -/
def failing : Script := { new .neutral with fallback := .failure }

/-- Queue reads behind those that wait. -/
def push (script : Script) (reads : List ScriptedRead) : Script :=
  { script with queue := script.queue ++ reads }

/-- What a read gives to the one who reads. -/
def outcome : ScriptedRead → Except SensorError Sample
  | .sample value => .ok value
  | .notReady => .error .notReady
  | .failure => .error (.io (.other "[MOCK] read failed"))

/-- The sensitivity that the source reports. -/
def sensitivity (script : Script) : Except SensorError Sensitivity :=
  match script.sensitivity? with
  | some sensitivity => .ok sensitivity
  | none => .error (.deviceUnavailable (.described "[MOCK] no device"))

/-- Take the next read. -/
def acquire (script : Script) : Script × Except SensorError Sample :=
  let script := { script with reads := script.reads + 1 }
  match script.queue with
  | [] => (script, outcome script.fallback)
  | read :: queue => ({ script with queue := queue }, outcome read)

end Script

end Magnetometer
