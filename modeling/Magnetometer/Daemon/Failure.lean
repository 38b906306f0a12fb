import Magnetometer.Config.Basic
import Magnetometer.Error
import Magnetometer.Text.Line

/-!
# Failures of the daemon

Why the daemon did not start, and the report of it: what it was about to do, and
below that the causes, the nearest one first.
-/

namespace Magnetometer.Daemon

/-- Why the daemon did not start. -/
inductive Failure where
  /-- The settings at a path, or at the default paths, were not loaded. -/
  | configuration (path? : Option Path) (error : ConfigError)
  /-- The device was not opened. -/
  | device (error : SensorError)
  /-- The driver was not made. -/
  | driver (error : SensorError)
deriving DecidableEq, Repr

namespace Failure

/-- What the daemon was about to do. -/
def context : Failure → String
  | configuration (some path) _ => "Failed to load configuration from " ++ path.display
  | configuration none _ => "Failed to load default configuration"
  | device _ => "Failed to open magnetometer device"
  | driver _ => "Failed to initialize magnetometer driver"

/-- Messages of the causes, the nearest one first.  A fault of the file system
is the cause of the failure that it led to. -/
def causes : Failure → List String
  | configuration _ (.io fault) => [(ConfigError.io fault).message, fault.message]
  | configuration _ error => [error.message]
  | device (.io fault) | driver (.io fault) => [(SensorError.io fault).message, fault.message]
  | device error | driver error => [error.message]

/-- A cause with its lines indented; one of several causes has its number in
front. -/
def indented (number : Option Nat) (cause : String) : List Char :=
  let first : List Char :=
    match number with
    | none => "    ".toList
    | some n => (Number.Decimal.render n).leftpad 5 ' ' ++ ": ".toList
  let later : List Char := List.replicate first.length ' '
  first ++ List.intercalate ('\n' :: later) (Text.splitAt '\n' cause.toList)

/-- The report of a failure. -/
def report (failure : Failure) : String :=
  let causes := failure.causes
  let entries :=
    match causes with
    | [cause] => [indented none cause]
    | _ => (causes.zipIdx).map fun (cause, n) => indented (some n) cause
  "Error: " ++ failure.context ++ "\n\nCaused by:"
    ++ String.ofList (entries.flatMap fun entry => '\n' :: entry) ++ "\n"

end Failure

end Magnetometer.Daemon
