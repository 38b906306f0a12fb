import Magnetometer.Axis
import Magnetometer.Number.Nearest
import Magnetometer.Number.Binary
import Magnetometer.Number.Decimal
import Magnetometer.Text.Blank
import Magnetometer.Text.Line
import Magnetometer.Text.Utf8
import Magnetometer.FileSystem.Tree
import Magnetometer.Sample
import Magnetometer.Sensitivity
import Magnetometer.Recent
import Magnetometer.Store.Form
import Magnetometer.Notice
import Magnetometer.Session
import Magnetometer.Source.Device
import Magnetometer.Source.Script
import Magnetometer.Clock
import Magnetometer.Json.Reader
import Magnetometer.Json.Writer
import Magnetometer.Json.Decode
import Magnetometer.Toml.Scalar
import Magnetometer.Toml.Statement
import Magnetometer.Config.Toml
import Magnetometer.Config.Json
import Magnetometer.Sink.JsonLines
import Magnetometer.Lifecycle.System
import Magnetometer.Sink.Any
import Magnetometer.Lifecycle.Bench
import Magnetometer.Daemon.Basic
import Magnetometer.Main
import Magnetometer.Proofs.Session
import Magnetometer.Proofs.Text.Line
import Magnetometer.Proofs.Json.Writer
import Magnetometer.Proofs.Sink.JsonLines
import Magnetometer.Proofs.Lifecycle.Turn
import Magnetometer.Proofs.Lifecycle.Trace
import Magnetometer.Proofs.Lifecycle.Handshake
import Magnetometer.Proofs.Lifecycle.Serial
import Magnetometer.Proofs.FileSystem
import Magnetometer.Proofs.Store
import Magnetometer.Proofs.Number.Rounding
import Magnetometer.Proofs.Number.Value
import Magnetometer.Proofs.Calibration.Accuracy
import Magnetometer.Proofs.Number.Error
import Magnetometer.Proofs.Calibration.Restore
import Magnetometer.Proofs.Lifecycle.Flush
import Magnetometer.Proofs.Calibration.Observed
import Magnetometer.Proofs.FileSystem.Overwrite
import Magnetometer.Proofs.Lifecycle.Cycle
import Magnetometer.Proofs.Lifecycle.Rest
import Magnetometer.Proofs.Lifecycle.Unflushed
import Magnetometer.Proofs.Lifecycle.LockStep
import Magnetometer.Proofs.Lifecycle.Transparency
import Magnetometer.Proofs.Lifecycle.Reload
import Magnetometer.Proofs.Recent
import Magnetometer.Proofs.Recent.Mean
import Magnetometer.Proofs.Lifecycle.Window
import Magnetometer.Proofs.Lifecycle.Release
import Magnetometer.Proofs.Source.Device
import Magnetometer.Proofs.FileSystem.Beside
import Magnetometer.Proofs.Daemon.Schedule
import Magnetometer.Proofs.Daemon.Feed
import Magnetometer.Proofs.Daemon.Outcome
import Magnetometer.Proofs.Daemon.Run
import Magnetometer.Proofs.Lifecycle.Phases
import Magnetometer.Proofs.Lifecycle.Sleep
import Magnetometer.Proofs.Source.Framing
import Magnetometer.Proofs.Calibration.Returned
import Magnetometer.Proofs.Calibration.Drift
import Magnetometer.Proofs.Toml.Quoted
import Magnetometer.Proofs.Toml.Scalar
import Magnetometer.Proofs.Toml.Statement
import Magnetometer.Proofs.Toml.Document
import Magnetometer.Proofs.Config
import Magnetometer.Proofs.Config.Completion
import Magnetometer.Proofs.Calibration.Extrema
import Magnetometer.Proofs.Session.Call
import Magnetometer.Proofs.Session.Writing
import Magnetometer.Proofs.Calibration.Centre
import Magnetometer.Proofs.Number.Calculation
import Magnetometer.Proofs.Session.Provenance
import Magnetometer.Proofs.Session.Lane
import Magnetometer.Proofs.Session.Order
import Magnetometer.Proofs.Number.Numeral
import Magnetometer.Proofs.Store.Grammar
import Magnetometer.Proofs.Text.Lossy
import Magnetometer.Proofs.Store.Corrupt
