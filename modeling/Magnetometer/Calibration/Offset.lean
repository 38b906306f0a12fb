import Magnetometer.Sensitivity

/-!
# Hard-iron offset

The bias of the surrounding iron on each axis, in units of 0.06 microtesla.
-/

namespace Magnetometer

open Number

/-- Bias per axis in units of 0.06 microtesla. -/
abbrev HardIronOffset := Triple Int32

namespace HardIronOffset

/-- The offset that removes nothing. -/
def zero : HardIronOffset := .replicate 0

/-- Bias in microtesla of an offset on one axis. -/
def bias (offset : Int32) : Single := microteslaPerUnit * Binary.ofInt offset.toInt

end HardIronOffset

/-- Offsets found in storage; an axis that was not found has none. -/
abbrev StoredOffset := Triple (Option Int32)

namespace StoredOffset

/-- Storage in which no axis was found. -/
def empty : StoredOffset := .replicate none

/-- Whether no axis was found. -/
def isEmpty (stored : StoredOffset) : Bool := stored.toList.all Option.isNone

/-- The stored form of a whole offset. -/
def ofOffset (offset : HardIronOffset) : StoredOffset := offset.map some

/-- The whole offset, if every axis was found. -/
def complete? (stored : StoredOffset) : Option HardIronOffset := do
  let x ← stored.x
  let y ← stored.y
  let z ← stored.z
  return ⟨x, y, z⟩

@[simp]
theorem complete?_ofOffset (offset : HardIronOffset) :
    complete? (ofOffset offset) = some offset := rfl

/-- Storage in which an axis was found is not empty. -/
theorem isEmpty_eq_false {stored : StoredOffset} {axis : Axis} {offset : Int32}
    (found : stored.get axis = some offset) : isEmpty stored = false := by
  rw [isEmpty, List.all_eq_false]
  exact ⟨stored.get axis, stored.get_mem_toList axis, by simp [found]⟩

end StoredOffset

end Magnetometer
