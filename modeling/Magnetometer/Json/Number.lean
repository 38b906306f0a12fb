import Magnetometer.Json.Basic
import Magnetometer.Number.Binary
import Magnetometer.Number.Decimal

/-!
# Meaning of JSON numbers

What a written number is as an integer and as a single precision value.

A number without point and exponent is an integer, minus zero excepted.  Any
other number is read in double precision first: its digits are gathered into 64
bits, digits that do not fit only count as places, and the result is scaled by
one power of ten.
-/

namespace Magnetometer.JsonNumber

open Number

/-- Greatest number of 64 bits. -/
def maxWord : Nat := 0xffffffffffffffff

/-- Gather digits behind a number as long as 64 bits hold them.  Gives the
number and the digits that did not fit. -/
def gather : Nat → List Char → Nat × List Char
  | n, [] => (n, [])
  | n, c :: rest =>
      let next := n * 10 + (c.toNat - '0'.toNat)
      if next ≤ maxWord then gather next rest else (n, c :: rest)

/-- The integer that a number is written as. -/
def integer? (n : JsonNumber) : Option Int :=
  match n.fraction, n.exponent with
  | none, none =>
      match Decimal.readDigits 0 n.whole with
      | none => none
      | some 0 => if n.negative then none else some 0
      | some magnitude => some (if n.negative then -(magnitude : Int) else magnitude)
  | _, _ => none

/-- The integer that a number is written as, if it lies within bounds. -/
def integerIn? (low high : Int) (n : JsonNumber) : Option Int :=
  n.integer?.filter fun value => low ≤ value && value ≤ high

/-- Ten to a power, rounded to double precision. -/
def powerOfTen (exponent : Nat) : Double := .ofInt (tenTo exponent)

/-- Greatest power of ten below the infinite. -/
def maxPower : Nat := 308

/-- Divide by ten to a power, as many powers at a time as there are below the
infinite.  Three divisions make zero of anything; the first argument bounds
them. -/
def divideByPower : Nat → Double → Nat → Double
  | 0, a, _ => a
  | fuel + 1, a, exponent =>
      if exponent ≤ maxPower then a / powerOfTen exponent
      else if a.isZero then a
      else divideByPower fuel (a / powerOfTen maxPower) (exponent - maxPower)

/-- A whole number times ten to a power; none if that is too large. -/
def scale? (digits : Nat) (exponent : Int) : Option Double :=
  let a : Double := .ofInt digits
  if exponent < 0 then
    some (divideByPower 4 a exponent.natAbs)
  else if exponent.toNat ≤ maxPower then
    let product := a * powerOfTen exponent.toNat
    if product.isInfinite then none else some product
  else if a.isZero then
    some a
  else
    none

/-- Greatest exponent that is taken as written. -/
def maxExponent : Nat := 0x7fffffff

/-- Magnitude of a number in double precision; none if it is too large. -/
def double? (n : JsonNumber) : Option Double :=
  let (digits, wholeLeft) := gather 0 n.whole
  let fraction := n.fraction.getD []
  let (digits, fractionLeft) := gather digits fraction
  let places : Int := wholeLeft.length - (fraction.length - fractionLeft.length : Nat)
  match n.exponent with
  | none => scale? digits places
  | some (negative, exponent) =>
      let exponent := (Decimal.readDigits 0 exponent).getD 0
      if maxExponent < exponent then
        if digits != 0 && !negative then none else some ⟨false, 0⟩
      else
        scale? digits (if negative then places - exponent else places + exponent)

/-- A number in single precision; none if it is too large for double precision. -/
def single? (n : JsonNumber) : Option Single :=
  match n.integerIn? (-0x8000000000000000) maxWord with
  | some value => some (.ofInt value)
  | none => n.double?.map fun a => { Binary.convert Format.single a with negative := n.negative }

end Magnetometer.JsonNumber
