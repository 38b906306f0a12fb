import Magnetometer.Proofs.Lifecycle.Turn

/-!
# The handshake between callers and thread

The phase that the thread has settled into bounds where it stands: sampling as
long as it is in a session, and shutdown exactly when it is gone.  `Handshake`
is this relation; every move of a driver keeps it, in any order and from any
number of callers.
-/

namespace Magnetometer.Lifecycle

/-- Whether a thread that stands at a place is in a session. -/
def Position.inSession : Position → Bool
  | .parked | .gone => false
  | _ => true

/-- How the control block and the place of the thread belong together. -/
structure Handshake (control : Control) (position : Position) : Prop where
  /-- In a session the thread has settled into sampling, and it has not settled
  into anything else before it looks again. -/
  session : position.inSession = true → control.acknowledged = .sampling
  /-- The thread is gone exactly when it has settled into the shutdown. -/
  released : control.acknowledged = .shutdown ↔ position = .gone
  /-- The thread goes for good only when it is asked to. -/
  asked : position = .gone → control.requested = .shutdown

namespace Sampler.Takes

variable {σ κ : Type} [CalibrationStore σ] [EventSink κ] {sampler : Sampler κ}
  {control : Control} {store : σ} {surroundings : Surroundings} {turn : Turn σ κ}

/-- Turns leave the phase that is asked for to the callers. -/
theorem requested_eq (takes : sampler.Takes control store surroundings turn) :
    turn.control.requested = control.requested := by
  cases takes <;> rfl

/-- A turn settles into the phase that is asked for or into none. -/
theorem acknowledged_eq (takes : sampler.Takes control store surroundings turn) :
    turn.control.acknowledged = control.requested ∨
      turn.control.acknowledged = control.acknowledged := by
  cases takes with
  | begin | leave | park => exact .inl rfl
  | _ => exact .inr rfl

/-- A session comes to its end only after a look that found sampling no longer
asked for. -/
theorem isSampling_of_closing (takes : sampler.Takes control store surroundings turn)
    (place : turn.sampler.position = .closing) : control.isSampling = false := by
  cases takes with
  | discard _ stopped | stop _ stopped => exact stopped
  | _ => cases place

theorem closing_of_settling (takes : sampler.Takes control store surroundings turn)
    (place : turn.sampler.position = .settling) : sampler.position = .closing := by
  cases takes with
  | close closing => exact closing
  | _ => cases place

/-- The turn that ends a session writes what the session then has. -/
theorem actions_of_settling (takes : sampler.Takes control store surroundings turn)
    (place : turn.sampler.position = .settling) :
    turn.actions = [.persist (offered turn.sampler.session)] := by
  cases takes with
  | close => rfl
  | _ => cases place

/-- A turn to where the thread parks does nothing more for the session. -/
theorem of_parked (takes : sampler.Takes control store surroundings turn)
    (place : turn.sampler.position = .parked) :
    (sampler.position = .settling ∨ sampler.position = .parked) ∧ turn.actions = [] ∧
      turn.sampler.session = sampler.session := by
  cases takes with
  | park parked => exact ⟨.inr parked, rfl, rfl⟩
  | settle settling => exact ⟨.inl settling, rfl, rfl⟩
  | _ => cases place

/-- Outside a session, and not asked to sample, the thread does nothing. -/
theorem of_outside (takes : sampler.Takes control store surroundings turn)
    (outside : sampler.position.inSession = false) (asked : control.requested ≠ .sampling) :
    turn.sampler.position.inSession = false ∧ turn.actions = [] ∧ turn.store = store := by
  cases takes with
  | begin place sampling => exact absurd sampling asked
  | leave | park => exact ⟨rfl, rfl, rfl⟩
  | load place | beginRead place | endRead place | proceed place | discard place | publish place
  | fail place | rest place | stop place | serve place | awake place | flush place | mark place
  | close place | settle place =>
      rw [place] at outside
      contradiction

end Sampler.Takes

namespace Handshake

theorem new : Handshake .new .parked where
  session := nofun
  released := ⟨nofun, nofun⟩
  asked := nofun

/-- A thread that is not in a session and not gone is parked. -/
theorem position_eq_parked {control : Control} {position : Position}
    (handshake : Handshake control position) (outside : control.acknowledged ≠ .sampling)
    (held : control.requested ≠ .shutdown) : position = .parked := by
  cases position with
  | parked => rfl
  | gone => exact absurd (handshake.asked rfl) held
  | _ => exact absurd (handshake.session rfl) outside

/-- A turn in a session leads on in it or back to where the thread parks, as
long as it leaves alone what the thread has settled into. -/
theorem leave {control next : Control} {position place : Position}
    (handshake : Handshake control position) (inside : position.inSession = true)
    (acknowledged : next.acknowledged = control.acknowledged) (stays : place ≠ .gone) :
    Handshake next place := by
  have sampling : next.acknowledged = .sampling :=
    acknowledged.trans (handshake.session inside)
  constructor
  case session => exact fun _ => sampling
  case released =>
    constructor
    · intro released
      rw [sampling] at released
      contradiction
    · intro gone
      exact absurd gone stays
  case asked =>
    intro gone
    exact absurd gone stays

variable {σ κ : Type} [CalibrationStore σ] [EventSink κ]

theorem turn {sampler : Sampler κ} {control : Control} {store : σ} {surroundings : Surroundings}
    {turn : Turn σ κ} (handshake : Handshake control sampler.position)
    (takes : sampler.Takes control store surroundings turn) :
    Handshake turn.control turn.sampler.position := by
  cases takes with
  | begin place asked =>
      constructor
      case session => exact fun _ => asked
      case released =>
        rw [Sampler.control_go, Control.acknowledged_settle, asked]
        exact ⟨nofun, nofun⟩
      case asked => nofun
  | leave place asked => exact ⟨nofun, ⟨fun _ => rfl, fun _ => asked⟩, fun _ => asked⟩
  | park place asked unsettled =>
      constructor
      case session => nofun
      case released =>
        rw [Sampler.control_go, Control.acknowledged_settle, asked]
        exact ⟨nofun, nofun⟩
      case asked => nofun
  | load place | beginRead place | endRead place given | proceed place asked
  | discard place stopped | publish place published | fail place | rest place | stop place stopped
  | serve place asked pending | awake place asked settled passed | flush place | mark place
  | close place | settle place =>
      rw [place] at handshake
      exact handshake.leave rfl rfl nofun

theorem submit {control : Control} {position : Position} (handshake : Handshake control position)
    (held : control.requested ≠ .shutdown) (request : Request) :
    Handshake (control.submit request).control position := by
  constructor
  case session =>
    rw [Control.acknowledged_submit]
    exact handshake.session
  case released =>
    rw [Control.acknowledged_submit]
    exact handshake.released
  case asked =>
    intro gone
    exact absurd (handshake.asked gone) held

/-- Every move keeps the handshake. -/
theorem happens {system : System σ κ} {move : Move} {moved : Moved σ κ}
    (handshake : Handshake system.control system.sampler.position)
    (happens : system.Happens move moved) :
    Handshake moved.system.control moved.system.sampler.position := by
  cases happens with
  | request held => exact handshake.submit held _
  | turn takes => exact handshake.turn takes
  | save => exact handshake

theorem run? {system : System σ κ} {moves : List Move} {last : Moved σ κ}
    (handshake : Handshake system.control system.sampler.position)
    (run : system.run? moves = some last) :
    Handshake last.system.control last.system.sampler.position :=
  System.run?_invariant_of_nil (fun _ now => Handshake now.control now.sampler.position)
    (fun _ _ _ _ kept happens => kept.happens happens) run handshake

end Handshake

end Magnetometer.Lifecycle
