import Magnetometer.Number.Decimal
import Magnetometer.Toml.Basic

/-!
# Writing TOML

Sections of key-value pairs.  A text is written in the plainest of the quoted
forms that holds it as it is; one that no form holds as it is gets escapes.
-/

namespace Magnetometer.Toml

open Number

/-- A quoted form of text. -/
inductive QuoteStyle where
  | basic
  | literal
  | basicLines
  | literalLines
deriving DecidableEq, Repr

/-- Greatest number of occurrences of a character in a row. -/
def longestRun (quote : Char) : Nat → List Char → Nat
  | run, [] => run
  | run, c :: rest =>
      if c = quote then longestRun quote (run + 1) rest else max run (longestRun quote 0 rest)

/-- Whether a character is written as an escape in every form but the literal
ones, which cannot hold it: the control characters other than tab and line
feed. -/
def isControl (c : Char) : Bool :=
  (c.toNat < 0x20 && c != '\t' && c != '\n') || c.toNat == 0x7F

/-- The form in which a text is written. -/
def quoteStyle (text : List Char) : QuoteStyle :=
  let doubles := longestRun '"' 0 text
  let singles := longestRun '\'' 0 text
  let lines := text.contains '\n'
  let backslash := text.contains '\\'
  if text.any isControl then (if lines then .basicLines else .basic)
  else if !backslash && doubles = 0 && !lines then .basic
  else if singles = 0 && !lines then .literal
  else if !backslash && doubles ≤ 2 then .basicLines
  else if singles ≤ 2 then .literalLines
  else if lines then .basicLines
  else .basic

/-- An upper-case hexadecimal digit. -/
def upperHexDigit (n : Nat) : Char := if n < 10 then Char.ofNat (48 + n) else Char.ofNat (55 + n)

/-- The escape of a character that is no quote, or the character itself. -/
def writeEscaped (keepsLines : Bool) (c : Char) : List Char :=
  if c = '\\' then "\\\\".toList
  else if c = '\n' then (if keepsLines then [c] else "\\n".toList)
  else if c = '\x08' then "\\b".toList
  else if c = '\x0c' then "\\f".toList
  else if c = '\r' then "\\r".toList
  else if c = '\t' then "\\t".toList
  else if isControl c then
    "\\u00".toList ++ [upperHexDigit (c.toNat / 16), upperHexDigit (c.toNat % 16)]
  else [c]

/-- The inside of a basic text.  Quotes up to a number in a row stay as they
are; the count starts anew behind an escaped one. -/
def writeBasic (quotes : Nat) (keepsLines : Bool) : Nat → List Char → List Char
  | _, [] => []
  | run, c :: rest =>
      if c = '"' then
        if run < quotes then '"' :: writeBasic quotes keepsLines (run + 1) rest
        else '\\' :: '"' :: writeBasic quotes keepsLines 0 rest
      else
        writeEscaped keepsLines c ++ writeBasic quotes keepsLines 0 rest

/-- A quoted text. -/
def writeText (text : List Char) : List Char :=
  let start := if text.contains '\n' then ['\n'] else []
  match quoteStyle text with
  | .basic => '"' :: writeBasic 0 false 0 text ++ ['"']
  | .literal => '\'' :: text ++ ['\'']
  | .basicLines => "\"\"\"".toList ++ start ++ writeBasic 2 true 0 text ++ "\"\"\"".toList
  | .literalLines => "'''".toList ++ start ++ text ++ "'''".toList

/-- A line that assigns a written value to a key. -/
def writePair (pair : String × List Char) : List Char :=
  pair.1.toList ++ " = ".toList ++ pair.2 ++ ['\n']

/-- A section: its header and its pairs. -/
def writeSection (name : String) (pairs : List (String × List Char)) : List Char :=
  '[' :: name.toList ++ "]\n".toList ++ pairs.flatMap writePair

/-- Sections with an empty line between them. -/
def writeSections (sections : List (List Char)) : List Char :=
  List.intercalate ['\n'] sections

end Magnetometer.Toml
