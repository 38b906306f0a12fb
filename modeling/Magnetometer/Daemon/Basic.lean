import Magnetometer.Config.Toml
import Magnetometer.Daemon.Failure
import Magnetometer.Lifecycle.Run
import Magnetometer.Sink.Any
import Magnetometer.Source.Device

/-!
# The daemon

From settings and files to output and files: the daemon opens the device, makes
a driver that keeps its offset in a file, and samples.  What reaches it from
outside are signals: to write the offset now, and to stop.  They come when the
device has no whole record left, and every sleep passes before that.
-/

namespace Magnetometer.Daemon

open Lifecycle

/-- What the daemon is told from outside. -/
inductive Signal where
  /-- Write the offset and go on. -/
  | checkpoint
  /-- Write the offset and end. -/
  | stop
deriving DecidableEq, Repr

/-- The daemon at work. -/
structure State where
  run : Run FileStore AnySink
  device : Device

/-- What the daemon comes to. -/
structure Outcome where
  files : FileSystem
  /-- What was written to standard output. -/
  output : Bytes
  /-- What was told. -/
  notices : List Notice
  /-- Why the daemon did not start, if it did not. -/
  failure? : Option Failure

namespace Outcome

/-- The outcome of a daemon that did not start. -/
def failed (files : FileSystem) (failure : Failure) : Outcome := ⟨files, [], [], some failure⟩

/-- The exit code: zero unless the daemon did not start. -/
def exitCode (outcome : Outcome) : Nat := if outcome.failure?.isSome then 1 else 0

end Outcome

namespace State

/-- Let the thread read from the device, and go on. -/
def read (state : State) : State :=
  let (device, outcome) := state.device.acquire state.run.system.store.files
  ⟨state.run.answer none outcome, device⟩

/-- Let the thread read a number of times. -/
def readTimes : Nat → State → State
  | 0, state => state
  | reads + 1, state => state.read.readTimes reads

/-- Let the thread read every whole record that is left. -/
def drain (state : State) : State :=
  state.readTimes (state.device.recordsLeft state.run.system.store.files)

/-- Hand a request in and wait for it; a read in progress finds what it finds. -/
def ask (state : State) (request : Request) : State :=
  let state := { state with run := (state.run.request request) }
  if state.run.isReading then state.read else { state with run := state.run.advance none }

/-- Follow signals in order until one says to stop. -/
def follow : List Signal → State → State
  | [], state => state
  | .checkpoint :: rest, state => (state.ask .flush).drain.follow rest
  | .stop :: _, state => state.ask .deactivate

/-- Release the driver. -/
def finish (state : State) : Outcome :=
  let state := state.ask .shutdown
  ⟨state.run.system.store.files, state.run.system.sampler.sink.takeBytes.2, state.run.notices,
    none⟩

end State

/-- The sink of a format. -/
def sinkOf : OutputFormat → AnySink
  | .json => .lines (.new .unlimited)
  | .log => .teller {}

/-- Run with given settings. -/
def runWith (config : Config) (files : FileSystem) (clock : ManualClock) (signals : List Signal) :
    Outcome :=
  match Device.open files config.device.dataPath config.device.sensitivityPath with
  | .error error => .failed files (.device error)
  | .ok device =>
      match device.sensitivity files with
      | .error error => .failed files (.driver error.asUnavailable)
      | .ok sensitivity =>
          let store : FileStore := ⟨config.calibration.storePath, files⟩
          let system := System.new sensitivity store (sinkOf config.output.format)
          let run := Run.ofSystem (system.request (.setDelay config.sampling.delay)) clock 0
          let state : State := ⟨(run.request .activate).advance none, device⟩
          (state.drain.follow signals).finish

/-- Run with the settings at a path, or with the default ones. -/
def run (path? : Option Path) (files : FileSystem) (clock : ManualClock)
    (signals : List Signal) : Outcome :=
  let loaded :=
    match path? with
    | some path => Config.load files path
    | none => Config.loadDefault files
  match loaded with
  | .error error => .failed files (.configuration path? error)
  | .ok config => runWith config files clock signals

end Magnetometer.Daemon
