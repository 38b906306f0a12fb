import Magnetometer.Number.Nearest
import Magnetometer.Number.Power

/-!
# Binary floating point

Values of a binary interchange format, kept as a sign and a magnitude code (the
bits below the sign).  Every finite value is a whole number of *units*, the
least positive value of the format, so arithmetic is exact on integers and then
rounded once to the nearest value, ties to even.

`Single` and `Double` are the two formats in use.  Conversion to integers
truncates toward zero and saturates at the bounds of the target.
-/

namespace Magnetometer.Number

/-- A binary format: significands of `precision` bits, units of `2 ^ (-scale)`,
and `top` as the magnitude code of infinity. -/
structure Format where
  precision : Nat
  scale : Nat
  top : Nat
deriving DecidableEq, Repr

namespace Format

/-- Single precision: 24-bit significands in units of `2 ^ (-149)`. -/
def single : Format := ⟨24, 149, 0x7f800000⟩

/-- Double precision: 53-bit significands in units of `2 ^ (-1074)`. -/
def double : Format := ⟨53, 1074, 0x7ff0000000000000⟩

/-- The number of magnitude codes that share one exponent. -/
def binade (format : Format) : Nat := twoTo (format.precision - 1)

/-- The number of units in one. -/
def one (format : Format) : Nat := twoTo format.scale

/-- The units that a finite magnitude code stands for: the first binade counts
units one by one, each later one in steps twice as wide as the one before. -/
def unitsOfCode (format : Format) (code : Nat) : Nat :=
  if code < format.binade then
    code
  else
    (format.binade + code % format.binade) * twoTo (code / format.binade - 1)

/-- The width in units of the step to which `n / d` units are rounded: the
least power of two that leaves at most `precision` bits. -/
def stepExponent (format : Format) (n d : Nat) : Nat :=
  Nat.log2 (n / d) - (format.precision - 1)

/-- Magnitude code nearest to `n / d` units, ties to even; infinity from half a
step above the largest finite value. -/
def codeOfUnits (format : Format) (n d : Nat) : Nat :=
  let k := format.stepExponent n d
  min format.top (k * format.binade + roundHalfEven n (d * twoTo k))

end Format

/-- A value of a binary format: its sign and its magnitude code.  Codes above
the one of infinity are not numbers. -/
structure Binary (format : Format) where
  negative : Bool
  code : Nat
deriving DecidableEq, Repr

/-- Single precision values. -/
abbrev Single := Binary Format.single

/-- Double precision values. -/
abbrev Double := Binary Format.double

namespace Binary

variable {format : Format}

instance : Inhabited (Binary format) := ⟨⟨false, 0⟩⟩

/-- A quiet value that is not a number. -/
def nan : Binary format := ⟨false, format.top + format.binade / 2⟩

/-- Infinity of a given sign. -/
def infinity (negative : Bool) : Binary format := ⟨negative, format.top⟩

/-- Whether a value is not a number. -/
def isNaN (a : Binary format) : Bool := format.top < a.code

/-- Whether a value is an infinity. -/
def isInfinite (a : Binary format) : Bool := a.code == format.top

/-- Whether a value is a number other than the infinities. -/
def isFinite (a : Binary format) : Bool := a.code < format.top

/-- Whether a value is one of the two zeros. -/
def isZero (a : Binary format) : Bool := a.code == 0

/-- Magnitude of a finite value in units. -/
def magnitude (a : Binary format) : Nat := format.unitsOfCode a.code

/-- Signed value of a finite value in units. -/
def units (a : Binary format) : Int := if a.negative then -(a.magnitude : Int) else a.magnitude

/-- The value nearest to `n / d` units of a given sign. -/
def ofUnits (negative : Bool) (n d : Nat) : Binary format := ⟨negative, format.codeOfUnits n d⟩

/-- The value nearest to the quotient `n / d`. -/
def ofQuotient (n : Int) (d : Nat) : Binary format :=
  ofUnits (decide (n < 0)) (n.natAbs * format.one) d

/-- The value nearest to an integer. -/
def ofInt (n : Int) : Binary format := ofQuotient n 1

/-- The same value with the other sign. -/
def neg (a : Binary format) : Binary format := { a with negative := !a.negative }

/-- Sum, rounded once.  An exact sum of zero is negative only when both terms
are. -/
def add (a b : Binary format) : Binary format :=
  if a.isNaN || b.isNaN then
    nan
  else if a.isInfinite then
    if b.isInfinite && a.negative != b.negative then nan else a
  else if b.isInfinite then
    b
  else
    let sum := a.units + b.units
    ofUnits (if sum = 0 then a.negative && b.negative else decide (sum < 0)) sum.natAbs 1

/-- Difference, rounded once. -/
def sub (a b : Binary format) : Binary format := add a b.neg

/-- Product, rounded once. -/
def mul (a b : Binary format) : Binary format :=
  let negative := a.negative != b.negative
  if a.isNaN || b.isNaN then
    nan
  else if a.isInfinite || b.isInfinite then
    if a.isZero || b.isZero then nan else infinity negative
  else
    ofUnits negative (a.magnitude * b.magnitude) format.one

/-- Quotient, rounded once. -/
def div (a b : Binary format) : Binary format :=
  let negative := a.negative != b.negative
  if a.isNaN || b.isNaN then
    nan
  else if a.isInfinite then
    if b.isInfinite then nan else infinity negative
  else if b.isInfinite then
    ⟨negative, 0⟩
  else if b.isZero then
    if a.isZero then nan else infinity negative
  else
    ofUnits negative (a.magnitude * format.one) b.magnitude

instance : Neg (Binary format) := ⟨neg⟩
instance : Add (Binary format) := ⟨add⟩
instance : Sub (Binary format) := ⟨sub⟩
instance : Mul (Binary format) := ⟨mul⟩
instance : Div (Binary format) := ⟨div⟩

/-- The integer part of a value, held between two bounds: truncation toward
zero, saturation beyond the bounds, and zero for what is not a number. -/
def truncate (low high : Int) (a : Binary format) : Int :=
  if a.isNaN then
    0
  else if a.isInfinite then
    if a.negative then low else high
  else
    max low (min high (a.units.tdiv format.one))

/-- The value of another format nearest to a given value. -/
def convert (target : Format) (a : Binary format) : Binary target :=
  if a.isNaN then
    nan
  else if a.isInfinite then
    infinity a.negative
  else
    ofUnits a.negative (a.magnitude * target.one) format.one

end Binary

namespace Single

/-- The bit of the sign in a 32-bit pattern. -/
def signBit : Nat := 0x80000000

/-- The value with a given 32-bit pattern. -/
def ofBits (bits : UInt32) : Single := ⟨decide (signBit ≤ bits.toNat), bits.toNat % signBit⟩

/-- The 32-bit pattern of a value. -/
def toBits (a : Single) : UInt32 :=
  UInt32.ofNat (a.code % signBit + if a.negative then signBit else 0)

theorem toBits_ofBits (bits : UInt32) : toBits (ofBits bits) = bits := by
  have hbits : bits.toNat < 4294967296 := bits.toNat_lt
  apply UInt32.toNat_inj.mp
  by_cases h : signBit ≤ bits.toNat
  · simp only [toBits, ofBits, h, decide_true, if_true, UInt32.toNat_ofNat']
    unfold signBit at h ⊢
    omega
  · simp only [toBits, ofBits, h, decide_false, Bool.false_eq_true, if_false, UInt32.toNat_ofNat']
    unfold signBit at h ⊢
    omega

/-- The 16-bit integer a value truncates to. -/
def toInt16 (a : Single) : Int16 := Int16.ofInt (a.truncate (-32768) 32767)

/-- The 32-bit integer a value truncates to. -/
def toInt32 (a : Single) : Int32 := Int32.ofInt (a.truncate (-2147483648) 2147483647)

end Single

end Magnetometer.Number
