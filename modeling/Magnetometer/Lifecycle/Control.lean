import Magnetometer.Error

/-!
# The control block

What the callers of a driver and its sampling thread share: the phase that is
requested and the one that the thread has settled into, the sampling delay, and
running counts of flushes asked for and served.  Every change is made under one
lock, so that `submit` is a single step; a caller that has to wait does so until
`Wait.isOver`.
-/

namespace Magnetometer.Lifecycle

/-- What the sampling thread is to do. -/
inductive Phase where
  | idle
  | sampling
  | shutdown
deriving DecidableEq, Repr

/-- The state of a driver as its callers see it. -/
inductive DriverState where
  /-- Never activated. -/
  | ready
  /-- Activated. -/
  | sampling
  /-- Activated once, and not now. -/
  | deactivated
deriving DecidableEq, Repr

/-- The control block. -/
structure Control where
  /-- Phase that the callers ask for. -/
  requested : Phase
  /-- Phase that the sampling thread last settled into. -/
  acknowledged : Phase
  /-- Microseconds from one sample to the next. -/
  delay : Nat
  state : DriverState
  /-- Number of flushes asked for. -/
  flushesRequested : Nat
  /-- Number of flushes served. -/
  flushesServed : Nat
deriving DecidableEq, Repr

/-- What a caller asks of a driver. -/
inductive Request where
  | activate
  | deactivate
  | flush
  /-- Set the delay in microseconds. -/
  | setDelay (microseconds : Int)
  | shutdown
deriving DecidableEq, Repr

/-- What a caller waits for. -/
inductive Wait where
  /-- The thread has left its session. -/
  | stopped
  /-- A number of flushes is served. -/
  | flushed (target : Nat)
  /-- The thread is gone. -/
  | released
deriving DecidableEq, Repr

namespace Wait

/-- Whether a wait has come to its end. -/
def isOver : Wait → Control → Bool
  | stopped, control => !(control.requested == .idle && control.acknowledged == .sampling)
  | flushed target, control =>
      !(control.requested == .sampling && decide (control.flushesServed < target))
  | released, control => control.acknowledged == .shutdown

end Wait

namespace Control

/-- Delay of a new driver. -/
def defaultDelay : Nat := 200000

/-- The control block of a new driver. -/
def new : Control where
  requested := .idle
  acknowledged := .idle
  delay := defaultDelay
  state := .ready
  flushesRequested := 0
  flushesServed := 0

/-- Whether a flush is still to be served. -/
def flushPending (control : Control) : Bool := control.flushesServed != control.flushesRequested

/-- Whether sampling is asked for. -/
def isSampling (control : Control) : Bool := control.requested == .sampling

/-- What a request comes to: the control block after it, the wait of its caller,
if it has to wait, and its result. -/
structure Submitted where
  control : Control
  wait? : Option Wait
  result : Except SensorError Unit

/-- Start sampling, unless the driver samples already. -/
def activate (control : Control) : Control :=
  if control.isSampling then control
  else { control with requested := .sampling, state := .sampling }

/-- Stop sampling, if the driver samples. -/
def deactivate (control : Control) : Control :=
  if control.isSampling then { control with requested := .idle, state := .deactivated }
  else control

/-- Ask for a flush, if the driver samples. -/
def flush (control : Control) : Control :=
  if control.isSampling then { control with flushesRequested := control.flushesRequested + 1 }
  else control

/-- The thread settles into the phase that is asked for. -/
def settle (control : Control) : Control := { control with acknowledged := control.requested }

/-- The flushes up to a number are served. -/
def serve (control : Control) (target : Nat) : Control := { control with flushesServed := target }

/-- Hand a request in.  Only a caller that changed something has to wait, and
only a delay below zero is refused. -/
def submit (control : Control) : Request → Submitted
  | .activate => ⟨control.activate, none, .ok ()⟩
  | .deactivate =>
      ⟨control.deactivate, if control.isSampling then some .stopped else none, .ok ()⟩
  | .flush =>
      ⟨control.flush,
        if control.isSampling then some (.flushed (control.flushesRequested + 1)) else none,
        .ok ()⟩
  | .setDelay microseconds =>
      if microseconds < 0 then
        ⟨control, none, .error (.invalidArgument (.negativeDelay microseconds))⟩
      else
        ⟨{ control with delay := microseconds.toNat }, none, .ok ()⟩
  | .shutdown => ⟨{ control with requested := .shutdown }, some .released, .ok ()⟩

@[simp]
theorem requested_settle (control : Control) : control.settle.requested = control.requested := rfl

@[simp]
theorem acknowledged_settle (control : Control) :
    control.settle.acknowledged = control.requested := rfl

@[simp]
theorem requested_serve (control : Control) (target : Nat) :
    (control.serve target).requested = control.requested := rfl

@[simp]
theorem acknowledged_serve (control : Control) (target : Nat) :
    (control.serve target).acknowledged = control.acknowledged := rfl

theorem isSampling_eq_true_iff (control : Control) :
    control.isSampling = true ↔ control.requested = .sampling := by
  simp [isSampling]

/-- Callers leave the phase that the thread has settled into to the thread. -/
@[simp]
theorem acknowledged_submit (control : Control) (request : Request) :
    (control.submit request).control.acknowledged = control.acknowledged := by
  cases request with
  | activate => unfold submit activate; dsimp only; split <;> rfl
  | deactivate => unfold submit deactivate; dsimp only; split <;> rfl
  | flush => unfold submit flush; dsimp only; split <;> rfl
  | setDelay microseconds => unfold submit; dsimp only; split <;> rfl
  | shutdown => rfl

/-- The phase that is asked for after a request. -/
theorem requested_submit (control : Control) (request : Request) :
    (control.submit request).control.requested =
      match request with
      | .activate => .sampling
      | .deactivate => if control.isSampling then .idle else control.requested
      | .shutdown => .shutdown
      | .flush | .setDelay _ => control.requested := by
  cases request with
  | activate =>
      unfold submit activate
      dsimp only
      split
      · rename_i sampling
        exact control.isSampling_eq_true_iff.mp sampling
      · rfl
  | deactivate => unfold submit deactivate; dsimp only; split <;> rfl
  | flush => unfold submit flush; dsimp only; split <;> rfl
  | setDelay microseconds => unfold submit; dsimp only; split <;> rfl
  | shutdown => rfl

/-- After a request to deactivate nothing is asked for. -/
theorem requested_deactivate (control : Control) (held : control.requested ≠ .shutdown) :
    (control.submit .deactivate).control.requested = .idle := by
  rw [requested_submit]
  cases before : control.requested with
  | idle | sampling => simp [isSampling, before]
  | shutdown => exact absurd before held

end Control

end Magnetometer.Lifecycle
