import Magnetometer.Lifecycle.Control
import Magnetometer.Store.Basic

/-!
# Configuration

The settings of the daemon in four sections, their defaults, and the limits
within which the driver can honour them.
-/

namespace Magnetometer

/-- What becomes of published vectors. -/
inductive OutputFormat where
  /-- A line of JSON on standard output. -/
  | json
  /-- A notice. -/
  | log
deriving DecidableEq, Repr

namespace OutputFormat

/-- Name of a format in data. -/
def name : OutputFormat → String
  | json => "json"
  | log => "log"

/-- The format of a name in data. -/
def ofName? (text : String) : Option OutputFormat :=
  [json, log].find? fun format => format.name == text

@[simp]
theorem ofName?_name (format : OutputFormat) : ofName? format.name = some format := by
  cases format <;> decide

end OutputFormat

/-- Where the device is. -/
structure DeviceSettings where
  /-- The file that streams records. -/
  dataPath : Path := .ofString "/dev/akm8963"
  /-- The file of the fuse bytes. -/
  sensitivityPath : Path := .ofString "/sys/class/magnetometer/akm8963/asa"
deriving DecidableEq, Repr

/-- Where the calibration is kept. -/
structure CalibrationSettings where
  storePath : Path := FileStore.defaultPath
deriving DecidableEq, Repr

/-- How often samples are taken. -/
structure SamplingSettings where
  /-- Microseconds from one sample to the next. -/
  delay : Nat := Lifecycle.Control.defaultDelay
deriving DecidableEq, Repr

/-- What the daemon puts out. -/
structure OutputSettings where
  format : OutputFormat := .log
  logLevel : String := "info"
deriving DecidableEq, Repr

/-- The settings of the daemon. -/
structure Config where
  device : DeviceSettings := {}
  calibration : CalibrationSettings := {}
  sampling : SamplingSettings := {}
  output : OutputSettings := {}
deriving DecidableEq, Repr

/-- A limit that settings break. -/
inductive Violation where
  | emptyDataPath
  | emptySensitivityPath
  | emptyStorePath
  | delayTooLong (delay : Nat)
deriving DecidableEq, Repr

/-- A failure to load or save settings. -/
inductive ConfigError where
  | notFound (path : Path)
  | invalid (violation : Violation)
  | io (fault : Fault)
  /-- The text is no TOML, or a setting has the wrong type. -/
  | unreadable
  /-- A setting cannot be written as TOML. -/
  | unwritable
deriving DecidableEq, Repr

namespace Config

/-- Longest delay in microseconds: one minute. -/
def maxDelay : Nat := 60000000

/-- The first limit that settings break, if they break one. -/
def violation? (config : Config) : Option Violation :=
  if config.device.dataPath.bytes = [] then some .emptyDataPath
  else if config.device.sensitivityPath.bytes = [] then some .emptySensitivityPath
  else if config.calibration.storePath.bytes = [] then some .emptyStorePath
  else if maxDelay < config.sampling.delay then some (.delayTooLong config.sampling.delay)
  else none

/-- Refuse settings that the driver cannot honour. -/
def validate (config : Config) : Except ConfigError Unit :=
  match config.violation? with
  | some violation => .error (.invalid violation)
  | none => .ok ()

end Config

/-- The message of a broken limit. -/
def Violation.message : Violation → String
  | emptyDataPath => "device.data_path is empty"
  | emptySensitivityPath => "device.sensitivity_path is empty"
  | emptyStorePath => "calibration.store_path is empty"
  | delayTooLong delay =>
      "sampling.delay_us " ++ Number.Decimal.text delay ++ " exceeds "
        ++ Number.Decimal.text Config.maxDelay

/-- The message of a failure to load or save settings. -/
def ConfigError.message : ConfigError → String
  | notFound path => "Configuration file not found: " ++ path.display
  | invalid violation => "Invalid configuration: " ++ violation.message
  | io fault => "IO error: " ++ fault.message
  | unreadable => "TOML parse error"
  | unwritable => "TOML serialize error"

end Magnetometer
