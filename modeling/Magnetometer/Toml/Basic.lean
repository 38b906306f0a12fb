/-!
# TOML values

The values of a TOML document.  Floats and dates are kept as they are written,
since no setting is one; tables keep the order of their keys.
-/

namespace Magnetometer.Toml

/-- A key of a table. -/
abbrev Key := List Char

/-- A TOML value. -/
inductive Value where
  | string (text : List Char)
  | integer (n : Int)
  | float (text : List Char)
  | boolean (b : Bool)
  | dateTime (text : List Char)
  | array (items : List Value)
  | table (entries : List (Key × Value))
deriving Repr

/-- The entries of a table. -/
abbrev Table := List (Key × Value)

/-- Whether a character separates parts of a line. -/
def isSpace (c : Char) : Bool := c == ' ' || c == '\t'

/-- Text without the space at its start. -/
def skipSpace (text : List Char) : List Char := text.dropWhile isSpace

/-- Whether a character may stand in comments and texts: a tab, or any character
that is no control character of ASCII. -/
def isPrintable (c : Char) : Bool := c == '\t' || (0x20 ≤ c.toNat && c.toNat != 0x7F)

/-- The rest of a text behind a line end at its front. -/
def takeNewline? : List Char → Option (List Char)
  | '\n' :: rest => some rest
  | '\r' :: '\n' :: rest => some rest
  | _ => none

/-- The rest of a text behind a comment at its front, if there is one. -/
def skipComment : List Char → List Char
  | '#' :: rest => rest.dropWhile isPrintable
  | text => text

/-- The rest of a text behind what may follow a statement on its line. -/
def takeLineEnd? (text : List Char) : Option (List Char) :=
  match skipComment (skipSpace text) with
  | [] => some []
  | rest => takeNewline? rest

end Magnetometer.Toml
