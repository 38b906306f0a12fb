import Magnetometer.Number.Binary
import Magnetometer.Number.Decimal

/-!
# Fixed decimals

A binary value written with a fixed number of decimals.  The exact value is
rounded once, a tie going to the even digit; the sign of a negative value stays
even where all digits are zero.
-/

namespace Magnetometer.Number.Fixed

variable {format : Format}

/-- The digits of a number, with zeros in front up to a given length. -/
def padded (length : Nat) (n : Nat) : List Char :=
  let digits := Decimal.digits n
  List.replicate (length - digits.length) '0' ++ digits

/-- The magnitude of a finite value in units of the last decimal. -/
def scaled (places : Nat) (a : Binary format) : Nat :=
  roundHalfEven (a.magnitude * tenTo places) format.one

/-- The magnitude of a finite value with a given number of decimals. -/
def renderMagnitude (places : Nat) (a : Binary format) : List Char :=
  let n := scaled places a
  let whole := Decimal.digits (n / tenTo places)
  if places = 0 then whole else whole ++ '.' :: padded places (n % tenTo places)

/-- A value with a given number of decimals. -/
def render (places : Nat) (a : Binary format) : List Char :=
  if a.isNaN then
    "NaN".toList
  else
    let magnitude := if a.isInfinite then "inf".toList else renderMagnitude places a
    if a.negative then '-' :: magnitude else magnitude

end Magnetometer.Number.Fixed
