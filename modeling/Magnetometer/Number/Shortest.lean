import Magnetometer.Number.Binary
import Magnetometer.Number.Decimal

/-!
# Shortest decimals

The shortest decimal that reads back as a given binary value.  The decimals of
one exponent form a grid; the coarsest grid with a point in the interval of
reals that round to the value decides the number of digits, and of the points
next to the value the nearer one is taken.  A grid has a point in the interval
if and only if one of the two points next to the value lies in it.

All comparisons are between natural numbers, so nothing is rounded on the way.
-/

namespace Magnetometer.Number

/-- The number `digits * 10 ^ exponent`. -/
structure Scientific where
  digits : Nat
  exponent : Int
deriving DecidableEq, Repr

namespace Shortest

variable {format : Format}

/-- Distance in units from a finite value to the next greater one. -/
def stepAbove (a : Binary format) : Nat := format.unitsOfCode (a.code + 1) - a.magnitude

/-- Distance in units from a finite value to the next smaller one. -/
def stepBelow (a : Binary format) : Nat := a.magnitude - format.unitsOfCode (a.code - 1)

/-- Whether a point of the grid of `10 ^ (j - scale)` reads back as a value: it
lies less than half a step away, or just half a step from an even value. -/
def readsBack (a : Binary format) (j point : Nat) : Bool :=
  let up := tenTo (format.scale - j)
  let down := tenTo (j - format.scale)
  let exact := 2 * (a.magnitude * up)
  let here := 2 * (point * down * format.one)
  let low := stepBelow a * up
  let high := stepAbove a * up
  if a.code % 2 = 0 then
    exact ≤ here + low && here ≤ exact + high
  else
    exact < here + low && here < exact + high

/-- The point of a grid just below a value, or at it. -/
def pointBelow (a : Binary format) (j : Nat) : Nat :=
  a.magnitude * tenTo (format.scale - j) / (format.one * tenTo (j - format.scale))

/-- Whether a value is nearer to the point above than to the point below; half
way between them the even point is the nearer one. -/
def preferAbove (a : Binary format) (j : Nat) : Bool :=
  roundHalfEven (a.magnitude * tenTo (format.scale - j)) (format.one * tenTo (j - format.scale))
    != pointBelow a j

/-- The point of a grid that reads back as a value and is nearest to it. -/
def pointOf? (a : Binary format) (j : Nat) : Option Nat :=
  let below := pointBelow a j
  let first := if preferAbove a j then below + 1 else below
  let second := if preferAbove a j then below else below + 1
  if readsBack a j first then some first
  else if readsBack a j second then some second
  else none

/-- The shortest decimal on the grids from `10 ^ (j - scale)` down.  The finest
grid holds the value itself. -/
def search (a : Binary format) : Nat → Scientific
  | 0 => ⟨(pointOf? a 0).getD (pointBelow a 0), -(format.scale : Int)⟩
  | j + 1 =>
      match pointOf? a (j + 1) with
      | some point => ⟨point, (j + 1 : Int) - format.scale⟩
      | none => search a j

/-- The shortest decimal of the magnitude of a finite value other than zero.
The search starts on a grid whose first point is at least the value. -/
def ofBinary (a : Binary format) : Scientific :=
  search a (format.scale + (Nat.log2 a.magnitude + 1 - format.scale))

end Shortest

/-- How a decimal is laid out: the exponents of a leading digit that are
written by position. -/
structure Layout where
  leastPositional : Int
  greatestPositional : Int
deriving DecidableEq, Repr

namespace Layout

/-- Digits with a point after the first of them, if there is more than one. -/
def pointAfterFirst : List Char → List Char
  | [] => []
  | [digit] => [digit]
  | digit :: rest => digit :: '.' :: rest

/-- A decimal as text.  By position it has at least one digit on either side of
the point; otherwise one digit stands before the point and the exponent is
written with its sign. -/
def render (layout : Layout) (n : Scientific) : List Char :=
  let digits := Decimal.digits n.digits
  let leading := n.exponent + digits.length - 1
  if layout.leastPositional ≤ leading ∧ leading ≤ layout.greatestPositional then
    if 0 ≤ n.exponent then
      digits ++ List.replicate n.exponent.toNat '0' ++ ".0".toList
    else if 0 ≤ leading then
      digits.take (leading.toNat + 1) ++ '.' :: digits.drop (leading.toNat + 1)
    else
      "0.".toList ++ List.replicate (-leading - 1).toNat '0' ++ digits
  else
    let sign := if leading < 0 then '-' else '+'
    pointAfterFirst digits ++ 'e' :: sign :: Decimal.digits leading.natAbs

end Layout

end Magnetometer.Number
