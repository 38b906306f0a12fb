import Magnetometer.Number.Decimal
import Magnetometer.Number.Power
import Magnetometer.Toml.Quoted

/-!
# Reading numbers and dates

Unquoted values: booleans, integers of four bases, floats, dates and times.
Each is a run of letters, digits and signs; only a date and its time may be
parted by a space.
-/

namespace Magnetometer.Toml

open Number

/-- Whether a character belongs to an unquoted value. -/
def isScalarChar (c : Char) : Bool :=
  c.isAlphanum || c == '_' || c == '+' || c == '-' || c == '.' || c == ':'

/-! ## Digits with underscores -/

/-- The digits of a run in which single underscores may stand between digits. -/
def plainDigits? (isDigit : Char → Bool) : List Char → Option (List Char)
  | [] => none
  | [c] => if isDigit c then some [c] else none
  | c :: '_' :: rest => if isDigit c then (plainDigits? isDigit rest).map (c :: ·) else none
  | c :: rest => if isDigit c then (plainDigits? isDigit rest).map (c :: ·) else none

/-- The digits of a decimal number: a leading zero stands alone. -/
def wholeDigits? (text : List Char) : Option (List Char) :=
  match plainDigits? Char.isDigit text with
  | some ('0' :: _ :: _) => none
  | digits => digits

/-- Take the sign off a number; the flag tells a minus. -/
def takeSign : List Char → Bool × List Char
  | '-' :: rest => (true, rest)
  | '+' :: rest => (false, rest)
  | text => (false, text)

/-! ## Integers -/

/-- Least integer of a document. -/
def minInteger : Int := -0x8000000000000000

/-- Greatest integer of a document. -/
def maxInteger : Int := 0x7fffffffffffffff

/-- The integer of digits in a base. -/
def baseInteger? (isDigit : Char → Bool) (base : Nat) (text : List Char) : Option Int := do
  let digits ← plainDigits? isDigit text
  let n ← readBase hexValue? base 0 digits
  return (n : Int)

/-- The integer that a text is. -/
def integer? (text : List Char) : Option Int := do
  let n ←
    match text with
    | '0' :: 'x' :: rest => baseInteger? (fun c => (hexValue? c).isSome) 16 rest
    | '0' :: 'o' :: rest => baseInteger? (fun c => '0' ≤ c && c ≤ '7') 8 rest
    | '0' :: 'b' :: rest => baseInteger? (fun c => c == '0' || c == '1') 2 rest
    | text =>
        let (negative, rest) := takeSign text
        (wholeDigits? rest).bind fun digits =>
          (Decimal.readDigits 0 digits).map fun (n : Nat) => if negative then -(n : Int) else n
  if minInteger ≤ n ∧ n ≤ maxInteger then some n else none

/-! ## Floats -/

/-- Split a text at the first character of a kind, which is left out. -/
def cutAt (isCut : Char → Bool) (text : List Char) : List Char × Option (List Char) :=
  match text.dropWhile fun c => !isCut c with
  | [] => (text, none)
  | _ :: rest => (text.takeWhile fun c => !isCut c, some rest)

/-- Least whole number that is infinite in double precision. -/
def infiniteFrom : Nat := twoTo 1024 - twoTo 970

/-- Whether `digits * 10 ^ exponent` is infinite in double precision.  Fewer
than 309 places before the point never are, more than 400 always. -/
def isHuge (digits : Nat) (exponent : Int) : Bool :=
  let places := (Decimal.digits digits).length + exponent
  if digits = 0 ∨ places < 309 then false
  else if 400 < places then true
  else infiniteFrom * tenTo (-exponent).toNat ≤ digits * tenTo exponent.toNat

/-- Whether the text is a float: a whole part, then a fraction, an exponent or
both.  A value too great for double precision is none. -/
def isFloat (text : List Char) : Bool :=
  let (negative, rest) := takeSign text
  let (mantissa, exponent) := cutAt (fun c => c == 'e' || c == 'E') rest
  let (whole, fraction) := cutAt (· == '.') mantissa
  if rest = "inf".toList ∨ rest = "nan".toList then
    true
  else if fraction.isNone && exponent.isNone then
    false
  else
    let whole? := wholeDigits? whole
    let fraction? := match fraction with
      | none => some []
      | some digits => plainDigits? Char.isDigit digits
    let exponent? := match exponent with
      | none => some (0 : Int)
      | some digits =>
          let (minus, digits) := takeSign digits
          (plainDigits? Char.isDigit digits).bind fun digits =>
            (Decimal.readDigits 0 digits).map fun (n : Nat) => if minus then -(n : Int) else n
    match whole?, fraction?, exponent? with
    | some whole, some fraction, some exponent =>
        let digits := (Decimal.readDigits 0 (whole ++ fraction)).getD 0
        negative || !isHuge digits (exponent - fraction.length)
    | _, _, _ => false

/-! ## Dates and times -/

/-- The number of digits that stand alone in a text. -/
def fixedDigits? (length : Nat) (text : List Char) : Option Nat :=
  if text.length = length && text.all Char.isDigit then Decimal.readDigits 0 text else none

/-- Whether a year has 366 days. -/
def isLeapYear (year : Nat) : Bool := year % 4 = 0 && (year % 100 != 0 || year % 400 = 0)

/-- Number of days in a month. -/
def daysIn (year month : Nat) : Nat :=
  if month = 2 then (if isLeapYear year then 29 else 28)
  else if month = 4 ∨ month = 6 ∨ month = 9 ∨ month = 11 then 30
  else 31

/-- Whether a text is a date of the calendar, as in `1979-05-27`. -/
def isDate : List Char → Bool
  | [y0, y1, y2, y3, '-', m0, m1, '-', d0, d1] =>
      match fixedDigits? 4 [y0, y1, y2, y3], fixedDigits? 2 [m0, m1], fixedDigits? 2 [d0, d1] with
      | some year, some month, some day =>
          1 ≤ month && month ≤ 12 && 1 ≤ day && day ≤ daysIn year month
      | _, _, _ => false
  | _ => false

/-- Whether a text is hours and minutes, as in `07:32`. -/
def isHourMinute : List Char → Bool
  | [h0, h1, ':', m0, m1] =>
      (fixedDigits? 2 [h0, h1]).any (· ≤ 23) && (fixedDigits? 2 [m0, m1]).any (· ≤ 59)
  | _ => false

/-- Whether a text is a time of day with seconds, as in `07:32:00.5`.  A leap
second counts as one. -/
def isTime (text : List Char) : Bool :=
  match text.drop 5 with
  | ':' :: s0 :: s1 :: rest =>
      isHourMinute (text.take 5) && (fixedDigits? 2 [s0, s1]).any (· ≤ 60) &&
        match rest with
        | [] => true
        | '.' :: fraction => !fraction.isEmpty && fraction.all Char.isDigit
        | _ => false
  | _ => false

/-- Whether a text is a distance from UTC, as in `+01:00`; there may be none. -/
def isZone : List Char → Bool
  | [] | ['Z'] | ['z'] => true
  | '+' :: rest | '-' :: rest => isHourMinute rest
  | _ => false

/-- Whether a character belongs to a time of day. -/
def isTimeChar (c : Char) : Bool := c.isDigit || c == ':' || c == '.'

/-- Whether a text is a time of day, with or without its distance from UTC. -/
def isOffsetTime (text : List Char) : Bool :=
  isTime (text.takeWhile isTimeChar) && isZone (text.dropWhile isTimeChar)

/-- Whether a text is a date with a time behind a letter T. -/
def isDateTime (text : List Char) : Bool :=
  isDate (text.take 10) &&
    match text.drop 10 with
    | c :: rest => (c == 'T' || c == 't') && isOffsetTime rest
    | [] => false

/-! ## Unquoted values -/

/-- The value that a run of characters is. -/
def scalar? (text : List Char) : Option Value :=
  if text = "true".toList then some (.boolean true)
  else if text = "false".toList then some (.boolean false)
  else if isDate text || isTime text || isDateTime text then some (.dateTime text)
  else if isFloat text then some (.float text)
  else (integer? text).map .integer

/-- An unquoted value from the front of a text.  A date takes the time behind a
space along. -/
def takeScalar? (text : List Char) : Option (Value × List Char) := do
  let run := text.takeWhile isScalarChar
  let rest := text.dropWhile isScalarChar
  let value ← scalar? run
  match isDate run, rest with
  | true, ' ' :: behind =>
      let time := behind.takeWhile isScalarChar
      if isOffsetTime time then
        return (.dateTime (run ++ ' ' :: time), behind.dropWhile isScalarChar)
      else
        return (value, rest)
  | _, _ => return (value, rest)

end Magnetometer.Toml
