/-!
# Faults of the file system

The ways in which a file operation fails, and the message of each.
-/

namespace Magnetometer

/-- Why a file operation failed. -/
inductive Fault where
  /-- A name on the path does not exist. -/
  | notFound
  /-- A file that must not exist yet does. -/
  | fileExists
  /-- A name on the path is used as a directory and is none. -/
  | notADirectory
  /-- A directory is used as a file. -/
  | isADirectory
  /-- A name, or the whole path, is too long. -/
  | nameTooLong
  /-- The path holds a byte that no path can hold. -/
  | nulByte
  /-- No directory of the path could be made. -/
  | wholeTree
  /-- The content ended inside a record. -/
  | shortRead
  /-- The content is not text. -/
  | notUtf8
  /-- A writer took no byte of what it was given. -/
  | nothingWritten
  /-- A fault that its source describes. -/
  | other (description : String)
deriving DecidableEq, Repr

namespace Fault

/-- The message of a fault. -/
def message : Fault → String
  | notFound => "No such file or directory (os error 2)"
  | fileExists => "File exists (os error 17)"
  | notADirectory => "Not a directory (os error 20)"
  | isADirectory => "Is a directory (os error 21)"
  | nameTooLong => "File name too long (os error 36)"
  | nulByte => "file name contained an unexpected NUL byte"
  | wholeTree => "failed to create whole tree"
  | shortRead => "failed to fill whole buffer"
  | notUtf8 => "stream did not contain valid UTF-8"
  | nothingWritten => "failed to write whole buffer"
  | other description => description

end Fault

end Magnetometer
