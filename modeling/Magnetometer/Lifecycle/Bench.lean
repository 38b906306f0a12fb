import Magnetometer.Lifecycle.Run
import Magnetometer.Sink.Any
import Magnetometer.Source.Device

/-!
# A driver on a bench

A driver whose device is a queue of reads, and whose sampling thread and callers
go in lock step: after every step the thread is without work, blocked in a read
from an empty queue, or asleep for longer than a second.  A caller that waits
breaks off a blocked read; shorter sleeps pass at once.

Queue, clocks and store belong to the bench and outlive a driver.
-/

namespace Magnetometer.Lifecycle

/-- What a queued read comes to. -/
inductive QueuedOutcome where
  | outcome (outcome : Except SensorError Sample)
  /-- The next record of the device file. -/
  | device

/-- What happens to the event clock during a read. -/
inductive Passing where
  | nothing
  /-- It goes forward by nanoseconds. -/
  | by (nanoseconds : Nat)
  /-- It is moved to a time. -/
  | to (time : UInt64)
deriving DecidableEq, Repr

/-- A read that waits to be made. -/
structure QueuedRead where
  outcome : QueuedOutcome
  passing : Passing

namespace QueuedRead

/-- A read that is not ready. -/
def notReady : QueuedRead := ⟨.outcome (.error .notReady), .nothing⟩

end QueuedRead

namespace Passing

/-- The clock after a read. -/
def apply (clock : ManualClock) : Passing → ManualClock
  | nothing => clock
  | .by nanoseconds => clock.advance nanoseconds
  | .to time => clock.set time

end Passing

/-- A driver on the bench, without its store. -/
structure Driver where
  control : Control
  sampler : Sampler AnySink
  sensitivity : Sensitivity

/-- The bench. -/
structure Bench where
  driver? : Option Driver
  store : AnyStore
  /-- Files beside a store that is none. -/
  files : FileSystem
  /-- The device file, if one was opened. -/
  device? : Option Device
  /-- Reads that wait, oldest first. -/
  queue : List QueuedRead
  clock : ManualClock
  instant : Nat
  /-- What was done, oldest first. -/
  actions : List Action
  /-- What was told, oldest first. -/
  notices : List Notice

namespace Bench

/-- Longest sleep that passes at once, in nanoseconds. -/
def patience : Nat := 1000000000

/-- A bench without a driver. -/
def new (store : AnyStore) (files : FileSystem) (clock : ManualClock) : Bench where
  driver? := none
  store := store
  files := files
  device? := none
  queue := []
  clock := clock
  instant := 0
  actions := []
  notices := []

/-- The files on the bench: those of the store, if it is in a file. -/
def allFiles (bench : Bench) : FileSystem :=
  match bench.store with
  | .file store => store.files
  | _ => bench.files

/-- Replace the files on the bench. -/
def setFiles (bench : Bench) (files : FileSystem) : Bench :=
  match bench.store with
  | .file store => { bench with store := .file { store with files := files } }
  | _ => { bench with files := files }

/-- The driver of the bench at work. -/
def run (bench : Bench) (driver : Driver) : Run AnyStore AnySink :=
  .ofSystem ⟨driver.control, driver.sampler, bench.store⟩ bench.clock bench.instant

/-- Put what a run came to back on the bench. -/
def putBack (bench : Bench) (driver : Driver) (run : Run AnyStore AnySink) : Bench :=
  { bench with
    driver? := some { driver with control := run.system.control, sampler := run.system.sampler }
    store := run.system.store
    clock := run.clock
    instant := run.instant
    actions := bench.actions ++ run.actions
    notices := bench.notices ++ run.notices }

/-- Let the driver run. -/
def update (bench : Bench) (f : Run AnyStore AnySink → Run AnyStore AnySink) : Bench :=
  match bench.driver? with
  | none => bench
  | some driver => bench.putBack driver (f (bench.run driver))

/-- Whether the thread of the driver is in a read. -/
def isReading (bench : Bench) : Bool :=
  match bench.driver? with
  | none => false
  | some driver => (bench.run driver).isReading

/-- Let the thread go on until it has to wait. -/
def advance (bench : Bench) : Bench := bench.update fun run => run.advance (some patience)

/-- Make a read: the outcome, and the bench with its clock and its device moved
on. -/
def read (bench : Bench) (read : QueuedRead) : Bench × Except SensorError Sample :=
  let bench := { bench with clock := read.passing.apply bench.clock }
  match read.outcome, bench.device? with
  | .outcome outcome, _ => (bench, outcome)
  | .device, none => (bench, .error .notReady)
  | .device, some device =>
      let (device, outcome) := device.acquire bench.allFiles
      ({ bench with device? := some device }, outcome)

/-- Let the read in progress come to what a queued read comes to. -/
def answer (bench : Bench) (queued : QueuedRead) : Bench :=
  let (bench, outcome) := bench.read queued
  bench.update fun run => run.answer (some patience) outcome

/-- Hand queued reads to the thread as long as it takes them; what it does not
take stays queued. -/
def feedAll : List QueuedRead → Bench → Bench
  | [], bench => { bench with queue := [] }
  | read :: rest, bench =>
      if bench.isReading then feedAll rest (bench.answer read)
      else { bench with queue := read :: rest }

/-- Let the thread go on, and hand it the queued reads. -/
def settle (bench : Bench) : Bench :=
  let bench := bench.advance
  feedAll bench.queue bench

/-- Hand a request in.  If its caller has to wait, a blocked read comes to what
a given read comes to. -/
def request (bench : Bench) (request : Request) (late : QueuedRead) :
    Bench × Except SensorError Unit :=
  match bench.driver? with
  | none => (bench, .ok ())
  | some driver =>
      let submitted := driver.control.submit request
      let waits := submitted.wait?.isSome
      let bench := bench.update fun run => run.request request
      let bench := if waits && bench.isReading then bench.answer late else bench
      (bench.settle, submitted.result)

/-- Queue reads behind those that wait; a blocked thread takes them at once. -/
def feed (bench : Bench) (reads : List QueuedRead) : Bench :=
  { bench with queue := bench.queue ++ reads }.settle

/-- Take the driver off the bench, after its thread came to an end. -/
def release (bench : Bench) : Bench :=
  { (bench.request .shutdown .notReady).1 with driver? := none }

/-- Put a new driver on the bench.  Without a sensitivity there is no driver. -/
def start (bench : Bench) (sensitivity : Except SensorError Sensitivity) (sink : AnySink) :
    Bench × Except SensorError Unit :=
  let bench := bench.release
  match sensitivity with
  | .error error => (bench, .error error.asUnavailable)
  | .ok sensitivity =>
      ({ bench with driver? := some ⟨.new, .new sensitivity sink, sensitivity⟩ }, .ok ())

/-- Save an offset into the store, as another writer does. -/
def save (bench : Bench) (offset : HardIronOffset) : Bench × Except SensorError Unit :=
  let access := CalibrationStore.save bench.store offset
  ({ bench with store := access.store }, access.result)

end Bench

end Magnetometer.Lifecycle
