import Magnetometer.Calibration.Offset
import Magnetometer.Number.Decimal
import Magnetometer.Text.Blank
import Magnetometer.Text.Line

/-!
# The text form of an offset

A stored offset is a text with one line per axis:

    HSUC_HO_FORM0.x = 12

Blanks may stand before and after every part of a line.  A line of any other
form is passed over, and of several lines for one axis the last one counts.
-/

namespace Magnetometer.Store

open Number

/-- What the key of every line starts with. -/
def keyStart : List Char := "HSUC_HO_FORM0.".toList

/-- The 32-bit number of an integer, if it is in range. -/
def int32? (n : Int) : Option Int32 :=
  if -2147483648 ≤ n ∧ n ≤ 2147483647 then some (Int32.ofInt n) else none

/-- The axis named by a text: its letter between blanks. -/
def parseAxis? (text : List Char) : Option Axis :=
  match Text.trim text with
  | [letter] => Axis.ofLetter? letter
  | _ => none

/-- The number written in a text: an integer in range between blanks. -/
def parseValue? (text : List Char) : Option Int32 :=
  (Decimal.parseInt? (Text.trim text)).bind int32?

/-- The parts of a text before and after its first occurrence of a character. -/
def splitOnce? (separator : Char) : List Char → Option (List Char × List Char)
  | [] => none
  | c :: rest =>
      if c = separator then
        some ([], rest)
      else
        (splitOnce? separator rest).map fun parts => (c :: parts.1, parts.2)

/-- The axis and the value of a line. -/
def parseLine? (line : List Char) : Option (Axis × Int32) := do
  let rest ← keyStart.isPrefixOf? (Text.trim line)
  let (axis, value) ← splitOnce? '=' rest
  let axis ← parseAxis? axis
  let value ← parseValue? value
  return (axis, value)

/-- Let a line override what was found before it. -/
def applyLine (stored : StoredOffset) (line : List Char) : StoredOffset :=
  match parseLine? line with
  | some (axis, value) => stored.set axis (some value)
  | none => stored

/-- The offsets found in a text. -/
def parse (text : List Char) : StoredOffset :=
  (Text.lines text).foldl applyLine .empty

/-- The line of one axis. -/
def renderLine (axis : Axis) (value : Int32) : List Char :=
  keyStart ++ axis.letter :: " = ".toList ++ Decimal.render value.toInt

/-- The text of an offset: one line per axis in x, y, z order, each with its line
feed. -/
def render (offset : HardIronOffset) : List Char :=
  (Axis.all.map fun axis => renderLine axis (offset.get axis)).flatMap fun line => line ++ ['\n']

theorem int32?_toInt (value : Int32) : int32? value.toInt = some value := by
  have hlow := value.le_toInt
  have hhigh := value.toInt_lt
  rw [int32?, if_pos (by omega), Int32.ofInt_toInt]

/-- A text of two parts joined by a line feed is read part by part. -/
theorem parse_append (s t : List Char) :
    parse (s ++ '\n' :: t) = (Text.lines t).foldl applyLine (parse s) := by
  simp [parse, Text.lines, Text.splitAt_append_cons, List.foldl_append]

end Magnetometer.Store
