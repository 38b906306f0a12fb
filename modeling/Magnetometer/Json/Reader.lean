import Magnetometer.Json.Basic

/-!
# Reading JSON

Reading takes a value from the front of a text and gives back the rest.  Every
step of a nested reading takes at least one character, so the length of the
text bounds the depth of the recursion.
-/

namespace Magnetometer.Json

/-- Whether a character may stand between the parts of a value. -/
def isSpace (c : Char) : Bool := c == ' ' || c == '\t' || c == '\n' || c == '\r'

/-- Text without the space at its start. -/
def skipSpace (text : List Char) : List Char := text.dropWhile isSpace

/-! ## Numbers -/

/-- One or more digits from the front of a text. -/
def takeDigits? (text : List Char) : Option (List Char × List Char) :=
  match text.takeWhile Char.isDigit with
  | [] => none
  | digits => some (digits, text.dropWhile Char.isDigit)

/-- The digits before the point: no zero comes before other digits. -/
def takeWhole? : List Char → Option (List Char × List Char)
  | '0' :: rest => if rest.head?.any Char.isDigit then none else some (['0'], rest)
  | text => takeDigits? text

/-- The point and the digits after it, if there is a point. -/
def takeFraction? : List Char → Option (Option (List Char) × List Char)
  | '.' :: rest => (takeDigits? rest).map fun (digits, rest) => (some digits, rest)
  | text => some (none, text)

/-- The sign and the digits of an exponent. -/
def takeSigned? : List Char → Option ((Bool × List Char) × List Char)
  | '-' :: rest => (takeDigits? rest).map fun (digits, rest) => ((true, digits), rest)
  | '+' :: rest => (takeDigits? rest).map fun (digits, rest) => ((false, digits), rest)
  | text => (takeDigits? text).map fun (digits, rest) => ((false, digits), rest)

/-- The exponent, if there is one. -/
def takeExponent? : List Char → Option (Option (Bool × List Char) × List Char)
  | c :: rest =>
      if c = 'e' ∨ c = 'E' then
        (takeSigned? rest).map fun (exponent, rest) => (some exponent, rest)
      else
        some (none, c :: rest)
  | [] => some (none, [])

/-- A number from the front of a text. -/
def takeNumber? (text : List Char) : Option (JsonNumber × List Char) := do
  let negative := text.head? == some '-'
  let (whole, rest) ← takeWhole? (if negative then text.tail else text)
  let (fraction, rest) ← takeFraction? rest
  let (exponent, rest) ← takeExponent? rest
  return (⟨negative, whole, fraction, exponent⟩, rest)

/-! ## Texts -/

/-- A part of a text: a character, or the 16-bit unit of an escape. -/
inductive Piece where
  | char (c : Char)
  | unit (n : Nat)
deriving DecidableEq, Repr

/-- Value of a hexadecimal digit. -/
def hexValue? (c : Char) : Option Nat :=
  if '0' ≤ c ∧ c ≤ '9' then some (c.toNat - '0'.toNat)
  else if 'a' ≤ c ∧ c ≤ 'f' then some (c.toNat - 'a'.toNat + 10)
  else if 'A' ≤ c ∧ c ≤ 'F' then some (c.toNat - 'A'.toNat + 10)
  else none

/-- Value of four hexadecimal digits. -/
def hexUnit? (a b c d : Char) : Option Nat := do
  let a ← hexValue? a
  let b ← hexValue? b
  let c ← hexValue? c
  let d ← hexValue? d
  return ((a * 16 + b) * 16 + c) * 16 + d

/-- The character of an escape of one letter. -/
def escaped? : Char → Option Char
  | '"' => some '"'
  | '\\' => some '\\'
  | '/' => some '/'
  | 'b' => some '\x08'
  | 'f' => some '\x0c'
  | 'n' => some '\n'
  | 'r' => some '\r'
  | 't' => some '\t'
  | _ => none

/-- The pieces up to the closing quote, and the text after it. -/
def takePieces? : List Char → Option (List Piece × List Char)
  | [] => none
  | '"' :: rest => some ([], rest)
  | '\\' :: 'u' :: a :: b :: c :: d :: rest => do
      let n ← hexUnit? a b c d
      let (pieces, rest) ← takePieces? rest
      return (.unit n :: pieces, rest)
  | '\\' :: c :: rest => do
      let c ← escaped? c
      let (pieces, rest) ← takePieces? rest
      return (.char c :: pieces, rest)
  | c :: rest =>
      if c = '\\' ∨ c.toNat < 0x20 then
        none
      else do
        let (pieces, rest) ← takePieces? rest
        return (.char c :: pieces, rest)

/-- Whether a unit is the first half of a pair. -/
def isHigh (n : Nat) : Bool := 0xD800 ≤ n && n < 0xDC00

/-- Whether a unit is the second half of a pair. -/
def isLow (n : Nat) : Bool := 0xDC00 ≤ n && n < 0xE000

/-- The text of pieces, if every surrogate is one of a pair. -/
def textOf? : List Piece → Option (List Char)
  | [] => some []
  | .char c :: rest => (textOf? rest).map (c :: ·)
  | .unit m :: .unit n :: rest =>
      if isHigh m && isLow n then
        (textOf? rest).map (Char.ofNat (0x10000 + (m - 0xD800) * 0x400 + (n - 0xDC00)) :: ·)
      else if isHigh m || isLow m then
        none
      else
        (textOf? (.unit n :: rest)).map (Char.ofNat m :: ·)
  | .unit m :: rest =>
      if isHigh m || isLow m then none else (textOf? rest).map (Char.ofNat m :: ·)

/-- A text from behind its opening quote. -/
def takeText? (text : List Char) : Option (Option (List Char) × List Char) :=
  (takePieces? text).map fun (pieces, rest) => (textOf? pieces, rest)

/-! ## Values -/

/-- The rest of a text behind a word at its front. -/
def takeWord? (word : String) (text : List Char) : Option (List Char) :=
  word.toList.isPrefixOf? text

mutual

/-- A value from the front of a text.  The first argument bounds the depth. -/
def takeValue? : Nat → List Char → Option (Json × List Char)
  | 0, _ => none
  | depth + 1, text =>
      match skipSpace text with
      | '"' :: rest => (takeText? rest).map fun (value, rest) => (.string value, rest)
      | '[' :: rest =>
          match skipSpace rest with
          | ']' :: rest => some (.array [], rest)
          | rest => (takeItems? depth rest).map fun (items, rest) => (.array items, rest)
      | '\x7b' :: rest =>
          match skipSpace rest with
          | '\x7d' :: rest => some (.object [], rest)
          | rest => (takeMembers? depth rest).map fun (members, rest) => (.object members, rest)
      | 'n' :: rest => (takeWord? "ull" rest).map fun rest => (.null, rest)
      | 't' :: rest => (takeWord? "rue" rest).map fun rest => (.bool true, rest)
      | 'f' :: rest => (takeWord? "alse" rest).map fun rest => (.bool false, rest)
      | rest => (takeNumber? rest).map fun (value, rest) => (.number value, rest)

/-- The items of an array up to its closing bracket. -/
def takeItems? : Nat → List Char → Option (List Json × List Char)
  | 0, _ => none
  | depth + 1, text => do
      let (item, rest) ← takeValue? depth text
      match skipSpace rest with
      | ']' :: rest => return ([item], rest)
      | ',' :: rest =>
          let (items, rest) ← takeItems? depth rest
          return (item :: items, rest)
      | _ => none

/-- The members of an object up to its closing brace. -/
def takeMembers? : Nat → List Char →
    Option (List (Option (List Char) × Json) × List Char)
  | 0, _ => none
  | depth + 1, text =>
      match skipSpace text with
      | '"' :: rest => do
          let (key, rest) ← takeText? rest
          match skipSpace rest with
          | ':' :: rest =>
              let (value, rest) ← takeValue? depth rest
              match skipSpace rest with
              | '\x7d' :: rest => return ([(key, value)], rest)
              | ',' :: rest =>
                  let (members, rest) ← takeMembers? depth rest
                  return ((key, value) :: members, rest)
              | _ => none
          | _ => none
      | _ => none

end

/-- The value that a text holds and nothing else. -/
def read? (text : List Char) : Option Json :=
  match takeValue? (text.length + 1) text with
  | some (value, rest) => if skipSpace rest = [] then some value else none
  | none => none

end Magnetometer.Json
