import Magnetometer.Clock
import Magnetometer.Lifecycle.System

/-!
# Running a driver by the clock

A driver at work together with its two clocks.  `advance` lets the sampling
thread take its turns until it has to wait: for a request, for the device, or
for the end of a sleep that is longer than one has patience for.  Shorter sleeps
pass on the steady clock.
-/

namespace Magnetometer.Lifecycle

/-- A driver at work, its clocks, and what came of it. -/
structure Run (σ κ : Type) where
  system : System σ κ
  /-- The clock of events. -/
  clock : ManualClock
  /-- Time of the steady clock in nanoseconds. -/
  instant : Nat
  /-- What was done, oldest first. -/
  actions : List Action
  /-- What was told, oldest first. -/
  notices : List Notice

namespace Run

variable {σ κ : Type} [CalibrationStore σ] [EventSink κ]

/-- A driver that has done nothing yet. -/
def ofSystem (system : System σ κ) (clock : ManualClock) (instant : Nat) : Run σ κ :=
  ⟨system, clock, instant, [], []⟩

/-- Whether the thread is in a read. -/
def isReading (run : Run σ κ) : Bool :=
  match run.system.sampler.position with
  | .reading _ => true
  | _ => false

/-- Let the thread take a turn, if it can. -/
def turn? (run : Run σ κ) (read? : Option (Except SensorError Sample)) : Option (Run σ κ) :=
  (run.system.turn? ⟨run.clock.now, run.instant, read?⟩).map fun moved =>
    { run with
      system := moved.system
      actions := run.actions ++ moved.actions
      notices := run.notices ++ moved.notices }

/-- Let a sleep pass, if it is no longer than one has patience for; without a
bound every sleep passes. -/
def sleep? (run : Run σ κ) (patience : Option Nat) : Option (Run σ κ) :=
  match run.system.sampler.position with
  | .asleep deadline =>
      if patience.all fun bound => deadline - run.instant ≤ bound then
        some { run with instant := max run.instant deadline }
      else
        none
  | _ => none

/-- Let the thread go on for at most a number of turns and sleeps. -/
def advanceWithin (patience : Option Nat) : Nat → Run σ κ → Run σ κ
  | 0, run => run
  | turns + 1, run =>
      match run.turn? none with
      | some next => advanceWithin patience turns next
      | none =>
          match run.sleep? patience with
          | some next => advanceWithin patience turns next
          | none => run

/-- More turns than a thread takes from one wait to the next. -/
def turnBound : Nat := 16

/-- Let the thread go on until it has to wait. -/
def advance (patience : Option Nat) (run : Run σ κ) : Run σ κ :=
  advanceWithin patience turnBound run

/-- Let the read in progress come to its end, and the thread go on. -/
def answer (patience : Option Nat) (run : Run σ κ) (outcome : Except SensorError Sample) :
    Run σ κ :=
  match run.turn? (some outcome) with
  | some next => next.advance patience
  | none => run

/-- Hand a request in. -/
def request (run : Run σ κ) (request : Request) : Run σ κ :=
  { run with system := run.system.request request }

end Run

end Magnetometer.Lifecycle
