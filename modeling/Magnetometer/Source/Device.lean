import Magnetometer.FileSystem.Tree
import Magnetometer.Sample
import Magnetometer.Sensitivity

/-!
# The device file

A device is a file that streams records, next to a file that holds the fuse
bytes.  An open device remembers how far it was read; every read takes the
next eight bytes, and a read that finds fewer takes what is left and fails.
-/

namespace Magnetometer

/-- An open device. -/
structure Device where
  /-- Path under which the device was opened. -/
  path : Path
  /-- Where the path led when the device was opened. -/
  location : Location
  /-- Path of the fuse bytes. -/
  fusePath : Path
  /-- Number of bytes read so far. -/
  position : Nat
deriving DecidableEq, Repr

namespace Device

/-- Open a device. -/
def «open» (files : FileSystem) (path fusePath : Path) : Except SensorError Device :=
  match files.resolve path with
  | .ok location => .ok ⟨path, location, fusePath, 0⟩
  | .error fault => .error (.deviceUnavailable (.file path fault))

/-- The sensitivity in the fuse bytes: the first three bytes of their file. -/
def sensitivity (files : FileSystem) (device : Device) : Except SensorError Sensitivity :=
  match files.read device.fusePath with
  | .error fault => .error (.deviceUnavailable (.file device.fusePath fault))
  | .ok (x :: y :: z :: _) => .ok ⟨x, y, z⟩
  | .ok bytes => .error (.deviceUnavailable (.fuseBytesMissing device.fusePath bytes.length))

/-- The record at the front of a stream with its sample, and the stream after
it.  Fewer bytes than a record make no sample, and nothing is left of them. -/
def next (stream : Bytes) : Except SensorError Sample × Bytes :=
  match Record.ofBytes? (stream.take Record.size) with
  | some record => (record.decode, stream.drop Record.size)
  | none => (.error (.io .shortRead), [])

/-- Read the next sample. -/
def acquire (files : FileSystem) (device : Device) : Device × Except SensorError Sample :=
  match files.contentAt device.location with
  | .error fault => (device, .error (.io fault))
  | .ok content =>
      let (result, rest) := next (content.drop device.position)
      ({ device with position := max device.position (content.length - rest.length) }, result)

/-- Number of whole records that are left to read. -/
def recordsLeft (files : FileSystem) (device : Device) : Nat :=
  match files.contentAt device.location with
  | .error _ => 0
  | .ok content => (content.length - device.position) / Record.size

end Device

end Magnetometer
