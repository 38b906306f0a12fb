import Magnetometer.Text.Line
import Magnetometer.Text.Utf8

/-!
# File paths

A path is a byte sequence; a slash separates names.  `names` is the sequence of
names that a lookup walks through, empty ones included, and `parent?` is the
path of the directory that holds the last name.
-/

namespace Magnetometer

/-- A file path, kept byte for byte. -/
structure Path where
  bytes : Bytes
deriving DecidableEq, Repr

namespace Path

/-- A name between two slashes. -/
abbrev Name := Bytes

/-- The byte that separates names. -/
def slash : UInt8 := 47

/-- The name of the directory that holds it. -/
def here : Name := [46]

/-- The name of the parent directory. -/
def up : Name := [46, 46]

/-- The path written as a text. -/
def ofString (text : String) : Path := ⟨Text.Utf8.encode text.toList⟩

/-- The path as it is shown in messages; bytes that are no text are replaced. -/
def display (path : Path) : String := String.ofList (Text.Utf8.decodeLossy path.bytes)

/-- The path as a text, if it is one. -/
def text? (path : Path) : Option String := (Text.Utf8.decode? path.bytes).map String.ofList

/-- The names between the slashes, in order. -/
def names (path : Path) : List Name := Text.splitAt slash path.bytes

/-- Whether a name leads nowhere: it is empty or stands for its own directory. -/
def isIdle (name : Name) : Bool := name == [] || name == here

/-- The path of names joined by slashes. -/
def ofNames (names : List Name) : Path := ⟨List.intercalate [slash] names⟩

/-- The path inside a directory; a path from the root stays as it is, and the
empty path is the directory. -/
def join (directory path : Path) : Path :=
  if path.bytes.head? = some slash then path
  else if path.bytes = [] then directory
  else ⟨directory.bytes ++ slash :: path.bytes⟩

/-- Names without the idle ones at their end. -/
def withoutIdleEnd (names : List Name) : List Name :=
  (names.reverse.dropWhile isIdle).reverse

/-- The path without its last name; none for the root and for the empty path.
The parent of a single name is the empty path. -/
def parent? (path : Path) : Option Path :=
  match path.names with
  | [] => none
  | first :: rest =>
      match (withoutIdleEnd rest).dropLast, withoutIdleEnd rest with
      | _, [] => if first = [] then none else some ⟨[]⟩
      | above, _ :: _ =>
          match withoutIdleEnd above with
          | [] => some (if first = [] then ⟨[slash]⟩ else ⟨first⟩)
          | kept => some (ofNames (first :: kept))

end Path

end Magnetometer
