import Magnetometer.Lifecycle.Control
import Magnetometer.Session

/-!
# The sampling thread

The thread that owns the session, as a machine that takes one turn at a time.
Each turn is either one use of the source, the store or the sink, or one look at
the control block; what happens between two turns is up to the callers.

    parked → loading → starting → reading → checking → handling → resting → asleep
    asleep → flushing → marking → asleep        a flush is asked for
    asleep → starting                           the sleep is over
    checking, asleep → closing → settling → parked    sampling is no longer asked for
    parked → gone                               the driver is released

A turn that cannot be taken yet is none: a thread that is parked without work,
blocked in a read or asleep stays where it is.
-/

namespace Magnetometer.Lifecycle

/-- What the sampling thread is about to do. -/
inductive Position where
  /-- Wait until sampling is asked for. -/
  | parked
  /-- Restore the session. -/
  | loading
  /-- Begin a read. -/
  | starting
  /-- Take what the read, begun at a time of the event clock, comes to. -/
  | reading (started : UInt64)
  /-- See whether sampling is still asked for. -/
  | checking (started : UInt64) (outcome : Except SensorError Sample)
  /-- Take a read over into the session. -/
  | handling (started : UInt64) (outcome : Except SensorError Sample)
  /-- Fix the end of the sleep. -/
  | resting (started : UInt64)
  /-- Sleep until a time of the steady clock. -/
  | asleep (deadline : Nat)
  /-- Write the offset for the flushes up to a number. -/
  | flushing (deadline target : Nat)
  /-- Mark the flushes up to a number as served. -/
  | marking (deadline target : Nat)
  /-- Write the offset at the end of the session. -/
  | closing
  /-- Mark every flush as served. -/
  | settling
  /-- Nothing more. -/
  | gone

/-- What a turn did: its use of source, store or sink, and its look after a
read. -/
inductive Action where
  /-- The session was restored from what the store gave. -/
  | load (loaded : Except SensorError StoredOffset)
  /-- A read was begun. -/
  | beginRead
  /-- A read came to its end. -/
  | endRead (outcome : Except SensorError Sample)
  /-- A look after a read found sampling still asked for, or not. -/
  | check (isSampling : Bool)
  /-- A sample was folded into the session. -/
  | ingest (sample : Sample)
  /-- An event was given to the sink. -/
  | emit (event : Event)
  /-- The session was written, with its offset if it was offered to the store. -/
  | persist (offered : Option HardIronOffset)

/-- What the surroundings give to a turn. -/
structure Surroundings where
  /-- Time of the event clock in nanoseconds. -/
  clock : UInt64
  /-- Time of the steady clock in nanoseconds. -/
  instant : Nat
  /-- What the read in progress comes to; none while it is blocked. -/
  read? : Option (Except SensorError Sample)

/-- The sampling thread with all that it owns but the store. -/
structure Sampler (κ : Type) where
  position : Position
  session : Session
  sink : κ

/-- What a turn comes to. -/
structure Turn (σ κ : Type) where
  control : Control
  sampler : Sampler κ
  store : σ
  actions : List Action
  notices : List Notice

namespace Sampler

variable {σ κ : Type}

/-- The thread of a new driver. -/
def new (sensitivity : Sensitivity) (sink : κ) : Sampler κ :=
  ⟨.parked, .new sensitivity, sink⟩

/-- The thread at another place. -/
def move (s : Sampler κ) (position : Position) : Sampler κ := { s with position := position }

/-- The offset that a write of the session offers to the store. -/
def offered (session : Session) : Option HardIronOffset :=
  if session.calibrator.hasObservations then some session.offset else none

/-- Nanoseconds in a microsecond. -/
def nanoseconds : Nat := 1000

/-- End of a sleep that starts now: the delay less the time since the read began. -/
def deadline (control : Control) (surroundings : Surroundings) (started : UInt64) : Nat :=
  surroundings.instant
    + (control.delay * nanoseconds - (surroundings.clock.toNat - started.toNat))

/-- Write the session; a failure is told, and has no other effect. -/
def write [CalibrationStore σ] (s : Sampler κ) (control : Control) (store : σ)
    (next : Position) : Turn σ κ :=
  let access := s.session.persist store
  let failure :=
    match access.result with
    | .ok _ => []
    | .error error => [.unwritable error]
  ⟨control, s.move next, access.store, [.persist (offered s.session)], access.notices ++ failure⟩

/-- Take a read over into the session and publish the field. -/
def handle [EventSink κ] (s : Sampler κ) (control : Control) (store : σ) (clock started : UInt64) :
    Except SensorError Sample → Turn σ κ
  | .ok sample =>
      let session := (s.session.ingest sample).1
      let (event?, sink, notices) := session.publish clock s.sink
      ⟨control, ⟨.resting started, session, sink⟩, store,
        .ingest sample :: (event?.map .emit).toList, notices⟩
  | .error .notReady => ⟨control, s.move (.resting started), store, [], []⟩
  | .error error => ⟨control, s.move (.resting started), store, [], [.readFailed error]⟩

/-- The turn that does nothing but go on to another place. -/
def go (s : Sampler κ) (control : Control) (store : σ) (actions : List Action)
    (position : Position) : Turn σ κ :=
  ⟨control, s.move position, store, actions, []⟩

/-- The turn of a parked thread: it settles into the phase that is asked for. -/
def settle? (s : Sampler κ) (control : Control) (store : σ) : Option (Turn σ κ) :=
  match control.requested with
  | .sampling => some (s.go control.settle store [] .loading)
  | .shutdown => some (s.go control.settle store [] .gone)
  | .idle =>
      if control.acknowledged = .idle then none
      else some (s.go control.settle store [] .parked)

/-- The turn of a thread asleep.  The end of sampling comes before a flush, and
a flush before the end of the sleep. -/
def wake? (s : Sampler κ) (control : Control) (store : σ) (instant deadline : Nat) :
    Option (Turn σ κ) :=
  if !control.isSampling then
    some (s.go control store [] .closing)
  else if control.flushPending then
    some (s.go control store [] (.flushing deadline control.flushesRequested))
  else if deadline ≤ instant then
    some (s.go control store [] .starting)
  else
    none

/-- Take the next turn, if there is one to take. -/
def turn? [CalibrationStore σ] [EventSink κ] (s : Sampler κ) (control : Control) (store : σ)
    (surroundings : Surroundings) : Option (Turn σ κ) :=
  match s.position with
  | .parked => s.settle? control store
  | .loading =>
      let restored := s.session.restore store
      some ⟨control, ⟨.starting, restored.session, s.sink⟩, restored.store,
        [.load restored.loaded], restored.notices⟩
  | .starting => some (s.go control store [.beginRead] (.reading surroundings.clock))
  | .reading started =>
      surroundings.read?.map fun outcome =>
        s.go control store [.endRead outcome] (.checking started outcome)
  | .checking started outcome =>
      some (s.go control store [.check control.isSampling]
        (if control.isSampling then .handling started outcome else .closing))
  | .handling started outcome => some (s.handle control store surroundings.clock started outcome)
  | .resting started =>
      some (s.go control store [] (.asleep (deadline control surroundings started)))
  | .asleep deadline => s.wake? control store surroundings.instant deadline
  | .flushing deadline target => some (s.write control store (.marking deadline target))
  | .marking deadline target =>
      some (s.go (control.serve target) store [] (.asleep deadline))
  | .closing => some (s.write control store .settling)
  | .settling =>
      some ⟨control.serve control.flushesRequested, s.move .parked, store, [],
        [.stopped s.session.count]⟩
  | .gone => none

section

variable (s : Sampler κ) (control : Control) (store : σ) (actions : List Action)
  (position : Position)

@[simp]
theorem position_move : (s.move position).position = position := rfl

@[simp]
theorem session_move : (s.move position).session = s.session := rfl

@[simp]
theorem control_go : (s.go control store actions position).control = control := rfl

@[simp]
theorem sampler_go : (s.go control store actions position).sampler = s.move position := rfl

@[simp]
theorem store_go : (s.go control store actions position).store = store := rfl

@[simp]
theorem actions_go : (s.go control store actions position).actions = actions := rfl

variable [CalibrationStore σ]

@[simp]
theorem control_write : (s.write control store position).control = control := rfl

@[simp]
theorem sampler_write : (s.write control store position).sampler = s.move position := rfl

@[simp]
theorem store_write :
    (s.write control store position).store = (s.session.persist store).store := rfl

@[simp]
theorem actions_write :
    (s.write control store position).actions = [.persist (offered s.session)] := rfl

end

end Sampler

end Magnetometer.Lifecycle
