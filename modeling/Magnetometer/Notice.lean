import Magnetometer.Calibration.Offset
import Magnetometer.Error
import Magnetometer.Event
import Magnetometer.Number.Fixed

/-!
# Notices

What the driver has to tell whoever watches it, apart from its results: each
kind of notice with its level and its text.
-/

namespace Magnetometer

open Number

/-- Weight of a notice. -/
inductive Level where
  | debug
  | info
  | warn
deriving DecidableEq, Repr

/-- Something worth telling. -/
inductive Notice where
  /-- There is no file of stored offsets yet. -/
  | missing (path : Path)
  /-- A session started from a stored offset. -/
  | restored (offset : HardIronOffset)
  /-- A session started without its stored offset. -/
  | unreadable (error : SensorError)
  /-- A read failed. -/
  | readFailed (error : SensorError)
  /-- The offset was written to a file. -/
  | saved (path : Path)
  /-- The offset was not written. -/
  | unwritable (error : SensorError)
  /-- A session ended. -/
  | stopped (count : Nat)
  /-- Nobody receives an event. -/
  | receiverGone
  /-- There is no room for an event. -/
  | queueFull
  /-- An event was not written out. -/
  | eventUnwritten (fault : Fault)
  /-- An event, told instead of written. -/
  | event (event : Event)
deriving DecidableEq, Repr

namespace Level

/-- Name of a level. -/
def name : Level → String
  | debug => "DEBUG"
  | info => "INFO"
  | warn => "WARN"

end Level

namespace Notice

/-- Level of a notice. -/
def level : Notice → Level
  | missing _ | restored _ | saved _ | stopped _ => .info
  | unreadable _ | readFailed _ | unwritable _ | eventUnwritten _ => .warn
  | receiverGone | queueFull | event _ => .debug

/-- An offset as it is shown in notices. -/
def showOffset (offset : HardIronOffset) : String :=
  let value (n : Int32) := Decimal.text n.toInt
  "(" ++ value offset.x ++ ", " ++ value offset.y ++ ", " ++ value offset.z ++ ")"

/-- An event as it is shown in notices: three decimals on each axis. -/
def showEvent (event : Event) : String :=
  let value (a : Single) := String.ofList (Fixed.render 3 a)
  let field := event.vector.field
  "Magnetic field [" ++ Decimal.text event.timestamp.toNat ++ "]: x=" ++ value field.x
    ++ " y=" ++ value field.y ++ " z=" ++ value field.z
    ++ " uT (" ++ event.vector.accuracy.label ++ ")"

/-- Text of a notice. -/
def text : Notice → String
  | missing path => "No calibration at " ++ path.display ++ ", starting uncalibrated"
  | restored offset => "Restored hard-iron offset " ++ showOffset offset
  | unreadable error => "Unable to read calibration, starting from zero: " ++ error.message
  | readFailed error => "Unable to get magnetometer data: " ++ error.message
  | saved path => "Calibration saved to " ++ path.display
  | unwritable error => "Unable to write calibration: " ++ error.message
  | stopped count => "Sampling stopped after " ++ Decimal.text count ++ " samples"
  | receiverGone => "Event receiver dropped, discarding vector"
  | queueFull => "Event queue full, dropping vector"
  | eventUnwritten fault => "Unable to write vector: " ++ fault.message
  | event e => showEvent e

end Notice

end Magnetometer
