import Magnetometer.FileSystem.Fault
import Magnetometer.FileSystem.Path
import Magnetometer.Number.Decimal

/-!
# Errors of the sensor

The kinds of failure that driver operations report, each with its cause, and
the one place where their messages are worded.
-/

namespace Magnetometer

/-- What lies behind a failure. -/
inductive Cause where
  /-- A cause that its source describes. -/
  | described (text : String)
  /-- A fault while a file was used. -/
  | file (path : Path) (fault : Fault)
  /-- A file of fuse bytes with too few of them. -/
  | fuseBytesMissing (path : Path) (count : Nat)
  /-- A sampling delay below zero. -/
  | negativeDelay (microseconds : Int)
deriving DecidableEq, Repr

/-- A failure of a driver operation. -/
inductive SensorError where
  | deviceUnavailable (cause : Cause)
  | notReady
  | configurationUnreadable (cause : Cause)
  | configurationWriteFailed (cause : Cause)
  | invalidArgument (cause : Cause)
  | io (fault : Fault)
deriving DecidableEq, Repr

/-- The message of a cause. -/
def Cause.message : Cause → String
  | described text => text
  | file path fault => path.display ++ ": " ++ fault.message
  | fuseBytesMissing path count =>
      path.display ++ ": expected 3 sensitivity bytes, got " ++ Number.Decimal.text count
  | negativeDelay microseconds =>
      "negative sampling delay: " ++ Number.Decimal.text microseconds ++ " us"

/-- The message of a failure. -/
def SensorError.message : SensorError → String
  | deviceUnavailable cause => "Device unavailable: " ++ cause.message
  | notReady => "Sample not ready"
  | configurationUnreadable cause => "Calibration configuration unreadable: " ++ cause.message
  | configurationWriteFailed cause => "Failed to write calibration configuration: " ++ cause.message
  | invalidArgument cause => "Invalid argument: " ++ cause.message
  | io fault => "IO error: " ++ fault.message

/-- The failure as a reason for having no device: any other failure is
described by its message. -/
def SensorError.asUnavailable : SensorError → SensorError
  | deviceUnavailable cause => deviceUnavailable cause
  | error => deviceUnavailable (.described error.message)

end Magnetometer
