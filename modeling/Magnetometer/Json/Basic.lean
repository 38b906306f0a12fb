/-!
# JSON values

A JSON text as a tree.  Numbers stay as they are written, since what a number
means depends on the type it is read as; a text that pairs its surrogates
wrongly is no text, but may stand where nothing is read.
-/

namespace Magnetometer

/-- A number as it is written. -/
structure JsonNumber where
  negative : Bool
  /-- Digits before the point. -/
  whole : List Char
  /-- Digits after the point, if there is one. -/
  fraction : Option (List Char)
  /-- Sign and digits of the exponent, if there is one. -/
  exponent : Option (Bool × List Char)
deriving DecidableEq, Repr

/-- A JSON value.  A string is `none` if its surrogates are not paired. -/
inductive Json where
  | null
  | bool (value : Bool)
  | number (value : JsonNumber)
  | string (value : Option (List Char))
  | array (items : List Json)
  | object (members : List (Option (List Char) × Json))
deriving Repr

end Magnetometer
