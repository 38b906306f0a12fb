import Magnetometer.Axis
import Magnetometer.Number.Binary

/-!
# Factory sensitivity adjustment

Each axis carries one fuse byte that makes up for manufacturing variance.  A
count times the factor of its axis is the adjusted count; a count times the
scale of its axis is the field in microtesla before the offset.  All steps are
in single precision, in the order in which they are written.
-/

namespace Magnetometer

open Number

/-- One fuse byte per axis. -/
abbrev Sensitivity := Triple UInt8

/-- Microtesla per count before adjustment. -/
def microteslaPerCount : Single := .ofQuotient 15 100

/-- Microtesla per unit of a stored offset. -/
def microteslaPerUnit : Single := .ofQuotient 6 100

/-- Distance in microtesla from zero at which the offset places the extrema. -/
def targetRange : Single := .ofInt 45

namespace Sensitivity

/-- The adjustment that changes nothing. -/
def neutral : Sensitivity := .replicate 128

/-- Multiplicative correction of a fuse byte: one at 128, a half at 0. -/
def factor (fuse : UInt8) : Single :=
  (Binary.ofInt fuse.toNat - Binary.ofInt 128) * Binary.ofQuotient 1 2 / Binary.ofInt 128
    + Binary.ofInt 1

/-- Microtesla per count under a fuse byte. -/
def scale (fuse : UInt8) : Single := microteslaPerCount * factor fuse

end Sensitivity

end Magnetometer
