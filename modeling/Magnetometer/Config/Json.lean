import Magnetometer.Config.Basic
import Magnetometer.Json.Forms

/-!
# JSON form of the configuration

Settings as JSON.  A section or a setting that is not given has its default.
-/

namespace Magnetometer

/-- Read a format. -/
def OutputFormat.ofJson? (value : Json) : Option OutputFormat :=
  (Json.asName? value).bind ofName?

/-- Write a format. -/
def OutputFormat.toJson (format : OutputFormat) : List Char :=
  Json.writeText format.name.toList

namespace Config

/-- Read a path. -/
def pathOfJson? (value : Json) : Option Path := (Json.asText? value).map .ofString

/-- Read a number of microseconds. -/
def delayOfJson? (value : Json) : Option Nat :=
  (Json.asInteger? 0 0xffffffffffffffff value).map Int.toNat

/-- Read the section of the device. -/
def deviceOfJson? (value : Json) : Option DeviceSettings := do
  let default : DeviceSettings := {}
  let fields ← Json.fields? ["data_path", "sensitivity_path"] value
  return {
    dataPath := ← Json.field? pathOfJson? (some default.dataPath) fields[0]?
    sensitivityPath := ← Json.field? pathOfJson? (some default.sensitivityPath) fields[1]? }

/-- Read the section of the calibration. -/
def calibrationOfJson? (value : Json) : Option CalibrationSettings := do
  let default : CalibrationSettings := {}
  let fields ← Json.fields? ["store_path"] value
  return { storePath := ← Json.field? pathOfJson? (some default.storePath) fields[0]? }

/-- Read the section of the sampling. -/
def samplingOfJson? (value : Json) : Option SamplingSettings := do
  let default : SamplingSettings := {}
  let fields ← Json.fields? ["delay_us"] value
  return { delay := ← Json.field? delayOfJson? (some default.delay) fields[0]? }

/-- Read the section of the output. -/
def outputOfJson? (value : Json) : Option OutputSettings := do
  let default : OutputSettings := {}
  let fields ← Json.fields? ["format", "log_level"] value
  return {
    format := ← Json.field? OutputFormat.ofJson? (some default.format) fields[0]?
    logLevel := ← Json.field? Json.asText? (some default.logLevel) fields[1]? }

/-- Read settings. -/
def ofJson? (value : Json) : Option Config := do
  let fields ← Json.fields? ["device", "calibration", "sampling", "output"] value
  return {
    device := ← Json.field? deviceOfJson? (some {}) fields[0]?
    calibration := ← Json.field? calibrationOfJson? (some {}) fields[1]?
    sampling := ← Json.field? samplingOfJson? (some {}) fields[2]?
    output := ← Json.field? outputOfJson? (some {}) fields[3]? }

/-- Write settings; none if a path is no text. -/
def toJson? (config : Config) : Option (List Char) := do
  let path (p : Path) := p.text?.map fun text => Json.writeText text.toList
  let dataPath ← path config.device.dataPath
  let sensitivityPath ← path config.device.sensitivityPath
  let storePath ← path config.calibration.storePath
  return Json.writeObject [
    ("device", Json.writeObject [("data_path", dataPath), ("sensitivity_path", sensitivityPath)]),
    ("calibration", Json.writeObject [("store_path", storePath)]),
    ("sampling", Json.writeObject [("delay_us", Json.writeInteger config.sampling.delay)]),
    ("output", Json.writeObject [
      ("format", config.output.format.toJson),
      ("log_level", Json.writeText config.output.logLevel.toList)])]

end Config

end Magnetometer
