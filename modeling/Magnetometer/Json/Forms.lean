import Magnetometer.Calibration.Offset
import Magnetometer.Event
import Magnetometer.Json.Decode
import Magnetometer.Json.Reader
import Magnetometer.Json.Writer
import Magnetometer.Sample

/-!
# JSON forms of measurements

How axes, samples, offsets, sensitivities, vectors and events are written as
JSON and read from it.
-/

namespace Magnetometer

open Number

/-- Bounds of the integers of a type, and how one is made. -/
structure IntegerForm (α : Type) where
  low : Int
  high : Int
  make : Int → α

namespace IntegerForm

/-- Fuse bytes. -/
def byte : IntegerForm UInt8 := ⟨0, 255, fun n => UInt8.ofNat n.toNat⟩

/-- Counts. -/
def count : IntegerForm Int16 := ⟨-32768, 32767, Int16.ofInt⟩

/-- Offsets. -/
def offset : IntegerForm Int32 := ⟨-2147483648, 2147483647, Int32.ofInt⟩

/-- Timestamps. -/
def timestamp : IntegerForm UInt64 := ⟨0, 0xffffffffffffffff, fun n => UInt64.ofNat n.toNat⟩

/-- Read an integer of the type. -/
def read? {α : Type} (form : IntegerForm α) (value : Json) : Option α :=
  (Json.asInteger? form.low form.high value).map form.make

end IntegerForm

/-! ## Axes and accuracies -/

/-- Name of an axis in data. -/
def Axis.name : Axis → String
  | .x => "X"
  | .y => "Y"
  | .z => "Z"

/-- Read an axis. -/
def Axis.ofJson? (value : Json) : Option Axis :=
  (Json.asName? value).bind fun text => Axis.all.find? fun axis => axis.name == text

/-- Write an axis. -/
def Axis.toJson (axis : Axis) : List Char := Json.writeText axis.name.toList

/-- Read an accuracy. -/
def Accuracy.ofJson? (value : Json) : Option Accuracy := (Json.asName? value).bind ofName?

/-- Write an accuracy. -/
def Accuracy.toJson (accuracy : Accuracy) : List Char := Json.writeText accuracy.name.toList

/-! ## Triples -/

/-- Write an integer. -/
def Json.writeInteger (n : Int) : List Char := Decimal.render n

/-- Read a structure of the fields x, y and z. -/
def Triple.ofJson? {α : Type} (read : Json → Option α) (value : Json) : Option (Triple α) := do
  let fields ← Json.fields? ["x", "y", "z"] value
  let x ← Json.field? read none fields[0]?
  let y ← Json.field? read none fields[1]?
  let z ← Json.field? read none fields[2]?
  return ⟨x, y, z⟩

/-- The members x, y and z of a written triple. -/
def Triple.jsonMembers {α : Type} (write : α → List Char) (t : Triple α) :
    List (String × List Char) :=
  [("x", write t.x), ("y", write t.y), ("z", write t.z)]

/-- Read a sample. -/
def Sample.ofJson? (value : Json) : Option Sample := Triple.ofJson? IntegerForm.count.read? value

/-- Write a sample. -/
def Sample.toJson (sample : Sample) : List Char :=
  Json.writeObject (sample.jsonMembers fun count => Json.writeInteger count.toInt)

/-- Read an offset. -/
def HardIronOffset.ofJson? (value : Json) : Option HardIronOffset :=
  Triple.ofJson? IntegerForm.offset.read? value

/-- Write an offset. -/
def HardIronOffset.toJson (offset : HardIronOffset) : List Char :=
  Json.writeObject (offset.jsonMembers fun n => Json.writeInteger n.toInt)

/-- Read a sensitivity: an array of three fuse bytes in a structure. -/
def Sensitivity.ofJson? (value : Json) : Option Sensitivity := do
  let fields ← Json.fields? ["asa"] value
  let bytes ← Json.field? Json.asArray? none fields[0]?
  let bytes ← bytes.mapM IntegerForm.byte.read?
  Triple.ofList? bytes

/-- Write a sensitivity. -/
def Sensitivity.toJson (sensitivity : Sensitivity) : List Char :=
  Json.writeObject [("asa", Json.writeArray
    (sensitivity.toList.map fun fuse => Json.writeInteger fuse.toNat))]

/-! ## Vectors and events -/

/-- Read a field vector. -/
def FieldVector.ofJson? (value : Json) : Option FieldVector := do
  let fields ← Json.fields? ["x", "y", "z", "accuracy"] value
  let x ← Json.field? Json.asSingle? none fields[0]?
  let y ← Json.field? Json.asSingle? none fields[1]?
  let z ← Json.field? Json.asSingle? none fields[2]?
  let accuracy ← Json.field? Accuracy.ofJson? none fields[3]?
  return ⟨⟨x, y, z⟩, accuracy⟩

/-- The members of a written field vector. -/
def FieldVector.jsonMembers (vector : FieldVector) : List (String × List Char) :=
  vector.field.jsonMembers Json.writeBinary ++ [("accuracy", vector.accuracy.toJson)]

/-- Write a field vector. -/
def FieldVector.toJson (vector : FieldVector) : List Char := Json.writeObject vector.jsonMembers

/-- Read an event. -/
def Event.ofJson? (value : Json) : Option Event := do
  let fields ← Json.fields? ["timestamp_ns", "x", "y", "z", "accuracy"] value
  let timestamp ← Json.field? IntegerForm.timestamp.read? none fields[0]?
  let x ← Json.field? Json.asSingle? none fields[1]?
  let y ← Json.field? Json.asSingle? none fields[2]?
  let z ← Json.field? Json.asSingle? none fields[3]?
  let accuracy ← Json.field? Accuracy.ofJson? none fields[4]?
  return ⟨timestamp, ⟨⟨x, y, z⟩, accuracy⟩⟩

/-- Write an event. -/
def Event.toJson (event : Event) : List Char :=
  Json.writeObject
    (("timestamp_ns", Json.writeInteger event.timestamp.toNat) :: event.vector.jsonMembers)

end Magnetometer
