import Magnetometer.Config.Basic
import Magnetometer.FileSystem.Tree
import Magnetometer.Toml.Statement
import Magnetometer.Toml.Writer

/-!
# Configuration files

Settings as TOML.  Every setting that a document does not give has its default,
whether its section is there or not, and what is no setting is passed over.
Loading checks the limits; saving does not.
-/

namespace Magnetometer

namespace Config

/-! ## Reading -/

/-- The values of the fields of a section.  A table gives them by name and an
array by order; a date is a table of nothing. -/
def sectionFields? (names : List String) : Toml.Value → Option (List (Option Toml.Value))
  | .table entries => some (names.map fun name => entries.lookup name.toList)
  | .array items =>
      some ((items.take names.length).map some
        ++ List.replicate (names.length - items.length) none)
  | .dateTime _ => some (names.map fun _ => none)
  | _ => none

/-- A setting that is a path. -/
def readPath? : Toml.Value → Option Path
  | .string text => some (.ofString (String.ofList text))
  | _ => none

/-- A setting that is a text. -/
def readText? : Toml.Value → Option String
  | .string text => some (String.ofList text)
  | _ => none

/-- A setting that is a number of microseconds. -/
def readDelay? : Toml.Value → Option Nat
  | .integer n => if 0 ≤ n then some n.toNat else none
  | _ => none

/-- A setting that names a format: a text, or a table of one key with nothing
in it. -/
def readFormat? : Toml.Value → Option OutputFormat
  | .string text => OutputFormat.ofName? (String.ofList text)
  | .table [(name, .table [])] => OutputFormat.ofName? (String.ofList name)
  | .table [(name, .array [])] => OutputFormat.ofName? (String.ofList name)
  | _ => none

/-- Read a setting; one that is not given has its default. -/
def setting? {α : Type} (read : Toml.Value → Option α) (default : α) :
    Option (Option Toml.Value) → Option α
  | some (some value) => read value
  | _ => some default

/-- Read the section of the device. -/
def readDevice? (value : Toml.Value) : Option DeviceSettings := do
  let fields ← sectionFields? ["data_path", "sensitivity_path"] value
  let default : DeviceSettings := {}
  return {
    dataPath := ← setting? readPath? default.dataPath fields[0]?
    sensitivityPath := ← setting? readPath? default.sensitivityPath fields[1]? }

/-- Read the section of the calibration. -/
def readCalibration? (value : Toml.Value) : Option CalibrationSettings := do
  let fields ← sectionFields? ["store_path"] value
  let default : CalibrationSettings := {}
  return { storePath := ← setting? readPath? default.storePath fields[0]? }

/-- Read the section of the sampling. -/
def readSampling? (value : Toml.Value) : Option SamplingSettings := do
  let fields ← sectionFields? ["delay_us"] value
  let default : SamplingSettings := {}
  return { delay := ← setting? readDelay? default.delay fields[0]? }

/-- Read the section of the output. -/
def readOutput? (value : Toml.Value) : Option OutputSettings := do
  let fields ← sectionFields? ["format", "log_level"] value
  let default : OutputSettings := {}
  return {
    format := ← setting? readFormat? default.format fields[0]?
    logLevel := ← setting? readText? default.logLevel fields[1]? }

/-- The settings of a document. -/
def ofTable? (table : Toml.Table) : Option Config := do
  let section? (name : String) := some (table.lookup name.toList)
  let default : Config := {}
  return {
    device := ← setting? readDevice? default.device (section? "device")
    calibration := ← setting? readCalibration? default.calibration (section? "calibration")
    sampling := ← setting? readSampling? default.sampling (section? "sampling")
    output := ← setting? readOutput? default.output (section? "output") }

/-- The settings of a text, within the limits. -/
def ofText (text : List Char) : Except ConfigError Config :=
  match (Toml.parse? text).bind ofTable? with
  | none => .error .unreadable
  | some config =>
      match config.validate with
      | .error error => .error error
      | .ok () => .ok config

/-! ## Writing -/

/-- Greatest delay that can be written. -/
def maxWrittenDelay : Nat := 0x7fffffffffffffff

/-- The text of settings; none if a path is no text or the delay is too great
for an integer. -/
def toText? (config : Config) : Option (List Char) := do
  let path (p : Path) := p.text?.map fun text => Toml.writeText text.toList
  let dataPath ← path config.device.dataPath
  let sensitivityPath ← path config.device.sensitivityPath
  let storePath ← path config.calibration.storePath
  guard (config.sampling.delay ≤ maxWrittenDelay)
  return Toml.writeSections [
    Toml.writeSection "device" [("data_path", dataPath), ("sensitivity_path", sensitivityPath)],
    Toml.writeSection "calibration" [("store_path", storePath)],
    Toml.writeSection "sampling" [("delay_us", Number.Decimal.render config.sampling.delay)],
    Toml.writeSection "output" [
      ("format", Toml.writeText config.output.format.name.toList),
      ("log_level", Toml.writeText config.output.logLevel.toList)]]

/-! ## Files -/

/-- Load the settings of a file. -/
def load (files : FileSystem) (path : Path) : Except ConfigError Config :=
  if !files.pathExists path then
    .error (.notFound path)
  else
    match files.readText path with
    | .error fault => .error (.io fault)
    | .ok text => ofText text

/-- Directory of the settings that are set on the device. -/
def userDirectory : Path := .ofString "/data/misc/magcal"

/-- Directory of the settings that come with the system. -/
def systemDirectory : Path := .ofString "/etc/magcal"

/-- The files that may hold the settings; the first one that exists counts. -/
def defaultPaths : List Path :=
  [userDirectory, systemDirectory].map fun directory => directory.join (.ofString "magcal.toml")

/-- Load the settings of the first default file that exists; without one all
settings have their defaults. -/
def loadDefault (files : FileSystem) : Except ConfigError Config :=
  match defaultPaths.find? files.pathExists with
  | some path => load files path
  | none => .ok {}

/-- Save settings to a file and make the directories above it.  Nothing is made
if the settings cannot be written. -/
def save (config : Config) (files : FileSystem) (path : Path) :
    FileSystem × Except ConfigError Unit :=
  match config.toText? with
  | none => (files, .error .unwritable)
  | some text =>
      let (files, result) := files.writeWithDirectories path (Text.Utf8.encode text)
      (files, result.mapError .io)

end Config

end Magnetometer
