import Magnetometer.Axis
import Magnetometer.Number.Binary

/-!
# Field vectors and events

A calibrated field vector in microtesla, and the event that publishes one with
the time at which it was taken.
-/

namespace Magnetometer

open Number

/-- Coarse accuracy of a vector. -/
inductive Accuracy where
  | unreliable
  | low
  | medium
  | high
deriving DecidableEq, Repr

/-- A calibrated field in microtesla. -/
structure FieldVector where
  field : Triple Single
  accuracy : Accuracy
deriving DecidableEq, Repr

/-- A field vector with its monotonic timestamp in nanoseconds. -/
structure Event where
  timestamp : UInt64
  vector : FieldVector
deriving DecidableEq, Repr

namespace Accuracy

/-- All accuracies, from worst to best. -/
def all : List Accuracy := [unreliable, low, medium, high]

/-- Name of an accuracy for people. -/
def label : Accuracy → String
  | unreliable => "Unreliable"
  | low => "Low"
  | medium => "Medium"
  | high => "High"

/-- Name of an accuracy in data. -/
def name : Accuracy → String
  | unreliable => "unreliable"
  | low => "low"
  | medium => "medium"
  | high => "high"

/-- The accuracy of a name in data. -/
def ofName? (text : String) : Option Accuracy := all.find? fun a => a.name == text

@[simp]
theorem ofName?_name (a : Accuracy) : ofName? a.name = some a := by
  cases a <;> decide

end Accuracy

end Magnetometer
