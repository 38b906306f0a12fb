import Magnetometer.Number.Shortest

/-!
# Writing JSON

Compact JSON text of numbers, texts, arrays and objects.  Binary values are
written with the fewest digits that read back; what is no number or infinite is
written as null.
-/

namespace Magnetometer.Json

open Number

/-- Leading digits from a millionth up to below ten million millions are
written by position. -/
def numberLayout : Layout := ⟨-6, 12⟩

/-- Text of a binary value. -/
def writeBinary {format : Format} (a : Binary format) : List Char :=
  if a.isFinite then
    let magnitude :=
      if a.isZero then "0.0".toList else numberLayout.render (Shortest.ofBinary a)
    if a.negative then '-' :: magnitude else magnitude
  else
    "null".toList

/-- A lower-case hexadecimal digit. -/
def hexDigit (n : Nat) : Char := if n < 10 then Char.ofNat (48 + n) else Char.ofNat (87 + n)

/-- A character inside a text. -/
def writeChar (c : Char) : List Char :=
  if c = '"' then "\\\"".toList
  else if c = '\\' then "\\\\".toList
  else if c = '\x08' then "\\b".toList
  else if c = '\x0c' then "\\f".toList
  else if c = '\n' then "\\n".toList
  else if c = '\r' then "\\r".toList
  else if c = '\t' then "\\t".toList
  else if c.toNat < 0x20 then "\\u00".toList ++ [hexDigit (c.toNat / 16), hexDigit (c.toNat % 16)]
  else [c]

/-- A text between quotes. -/
def writeText (text : List Char) : List Char := '"' :: text.flatMap writeChar ++ ['"']

/-- An array of written items. -/
def writeArray (items : List (List Char)) : List Char :=
  '[' :: List.intercalate [','] items ++ [']']

/-- A member of an object: its key and its written value. -/
def writeMember (member : String × List Char) : List Char :=
  writeText member.1.toList ++ ':' :: member.2

/-- An object of written members. -/
def writeObject (members : List (String × List Char)) : List Char :=
  '\x7b' :: List.intercalate [','] (members.map writeMember) ++ ['\x7d']

end Magnetometer.Json
