import Magnetometer.Lifecycle.Sampler

/-!
# Driver and callers together

A driver at work: its control block, its sampling thread and its store.  A move
is either a request of some caller, a turn of the thread, or a write that
someone else makes into the store; `run?` makes moves one after another, in
whatever order they come.
-/

namespace Magnetometer.Lifecycle

/-- A driver at work. -/
structure System (σ κ : Type) where
  control : Control
  sampler : Sampler κ
  store : σ

/-- What may happen next. -/
inductive Move where
  /-- A caller hands a request in. -/
  | request (request : Request)
  /-- The sampling thread takes a turn. -/
  | turn (surroundings : Surroundings)
  /-- Someone else saves an offset into the store. -/
  | save (offset : HardIronOffset)

/-- A driver at work with what came of a move. -/
structure Moved (σ κ : Type) where
  system : System σ κ
  actions : List Action
  notices : List Notice

namespace System

variable {σ κ : Type} [CalibrationStore σ] [EventSink κ]

/-- A driver that was just made. -/
def new (sensitivity : Sensitivity) (store : σ) (sink : κ) : System σ κ :=
  ⟨.new, .new sensitivity sink, store⟩

/-- Hand a request in. -/
def request (system : System σ κ) (request : Request) : System σ κ :=
  { system with control := (system.control.submit request).control }

/-- Let the sampling thread take a turn, if it can. -/
def turn? (system : System σ κ) (surroundings : Surroundings) : Option (Moved σ κ) :=
  (system.sampler.turn? system.control system.store surroundings).map fun turn =>
    ⟨⟨turn.control, turn.sampler, turn.store⟩, turn.actions, turn.notices⟩

/-- Make a move, if it can be made.  The request to shut down takes the driver
from its callers, so that no request follows it. -/
def move? (system : System σ κ) : Move → Option (Moved σ κ)
  | .request request =>
      if system.control.requested = .shutdown then none
      else some ⟨system.request request, [], []⟩
  | .turn surroundings => system.turn? surroundings
  | .save offset =>
      some ⟨{ system with store := (CalibrationStore.save system.store offset).store }, [], []⟩

/-- Make moves one after another and gather what comes of them. -/
def run? (system : System σ κ) : List Move → Option (Moved σ κ)
  | [] => some ⟨system, [], []⟩
  | move :: rest => do
      let first ← system.move? move
      let last ← first.system.run? rest
      return ⟨last.system, first.actions ++ last.actions, first.notices ++ last.notices⟩

omit [CalibrationStore σ] [EventSink κ] in
@[simp]
theorem control_request (system : System σ κ) (request : Request) :
    (system.request request).control = (system.control.submit request).control := rfl

omit [CalibrationStore σ] [EventSink κ] in
@[simp]
theorem sampler_request (system : System σ κ) (request : Request) :
    (system.request request).sampler = system.sampler := rfl

omit [CalibrationStore σ] [EventSink κ] in
@[simp]
theorem store_request (system : System σ κ) (request : Request) :
    (system.request request).store = system.store := rfl

end System

end Magnetometer.Lifecycle
