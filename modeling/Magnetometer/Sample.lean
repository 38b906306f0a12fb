import Magnetometer.Axis
import Magnetometer.Error

/-!
# Samples and their records

A sample is one raw reading per axis.  The device reports it as a record of
eight bytes: a status byte whose lowest bit says that the measurement is
complete, the three readings as signed 16-bit little-endian numbers, and one
byte that carries nothing.  `decode_encode` says that decoding gives back the
sample that a ready record was made from.
-/

namespace Magnetometer

/-- One raw reading per axis, in counts. -/
abbrev Sample := Triple Int16

namespace Sample

/-- The sample of three zero readings. -/
def zero : Sample := .replicate 0

end Sample

/-- One measurement as the device reports it. -/
structure Record where
  status : UInt8
  x0 : UInt8
  x1 : UInt8
  y0 : UInt8
  y1 : UInt8
  z0 : UInt8
  z1 : UInt8
  last : UInt8
deriving DecidableEq, Repr

namespace Record

/-- Number of bytes in a record. -/
def size : Nat := 8

/-- The record of eight bytes. -/
def ofBytes? : Bytes → Option Record
  | [status, x0, x1, y0, y1, z0, z1, last] => some ⟨status, x0, x1, y0, y1, z0, z1, last⟩
  | _ => none

/-- The bytes of a record. -/
def toBytes (r : Record) : Bytes := [r.status, r.x0, r.x1, r.y0, r.y1, r.z0, r.z1, r.last]

/-- Whether the record holds a completed measurement. -/
def isReady (r : Record) : Bool := r.status.toNat % 2 = 1

/-- The signed number of two bytes, the low one first; 32768 and above stand for
the negative numbers. -/
def littleEndian (low high : UInt8) : Int16 :=
  Int16.ofInt (low.toNat + 256 * high.toNat)

/-- The low byte of a signed number. -/
def lowByte (value : Int16) : UInt8 := UInt8.ofNat (value.toInt % 256).toNat

/-- The high byte of a signed number. -/
def highByte (value : Int16) : UInt8 := UInt8.ofNat (value.toInt / 256 % 256).toNat

/-- The sample of a record; only a completed measurement has one. -/
def decode (r : Record) : Except SensorError Sample :=
  if r.isReady then
    .ok ⟨littleEndian r.x0 r.x1, littleEndian r.y0 r.y1, littleEndian r.z0 r.z1⟩
  else
    .error .notReady

/-- The ready record of a sample. -/
def encode (s : Sample) : Record where
  status := 1
  x0 := lowByte s.x
  x1 := highByte s.x
  y0 := lowByte s.y
  y1 := highByte s.y
  z0 := lowByte s.z
  z1 := highByte s.z
  last := 0

@[simp]
theorem ofBytes?_toBytes (r : Record) : ofBytes? r.toBytes = some r := rfl

@[simp]
theorem length_toBytes (r : Record) : r.toBytes.length = size := rfl

/-- The two bytes of a signed number make the number again. -/
theorem littleEndian_bytes (value : Int16) :
    littleEndian (lowByte value) (highByte value) = value := by
  have hlow := value.le_toInt
  have hhigh := value.toInt_lt
  apply Int16.toInt_inj.mp
  unfold littleEndian lowByte highByte
  rw [UInt8.toNat_ofNat', UInt8.toNat_ofNat', Int16.toInt_ofInt]
  change Int.bmod _ 65536 = _
  generalize value.toInt = n at *
  have hsum : (((n % 256).toNat % 2 ^ 8 : Nat) +
      256 * ((n / 256 % 256).toNat % 2 ^ 8 : Nat) : Int) = n % 65536 := by omega
  rw [hsum, Int.bmod_def]
  split <;> omega

/-- A ready record decodes to the sample it was made from. -/
@[simp]
theorem decode_encode (s : Sample) : (encode s).decode = .ok s := by
  simp [decode, encode, isReady, littleEndian_bytes]

end Record

end Magnetometer
