import Magnetometer.Proofs.Lifecycle.Handshake

/-!
# One caller at a time

A driver whose calls are made one after another: a call returns when its wait is
over, and the next one is made only then.  The thread takes its turns in
between, and so may others who write into the store.

Under this order the thread cannot meet a request to sample again while it
brings a session to its end, so that `deactivate` is a barrier: what the session
has to write is written when the call returns, and nothing is done from then
until sampling is asked for again.
-/

namespace Magnetometer.Lifecycle

/-- A driver at work with the call that has not returned. -/
structure Serial (σ κ : Type) where
  system : System σ κ
  /-- The call that is being made, and what it waits for. -/
  call? : Option (Request × Option Wait)

namespace Serial

/-- What may happen next. -/
inductive Move where
  /-- A call is made. -/
  | call (request : Request)
  /-- The call that was made returns. -/
  | ret
  /-- The sampling thread takes a turn. -/
  | turn (surroundings : Surroundings)
  /-- Someone else saves an offset into the store. -/
  | save (offset : HardIronOffset)

variable {σ κ : Type} [CalibrationStore σ] [EventSink κ]

/-- A driver that was just made. -/
def new (sensitivity : Sensitivity) (store : σ) (sink : κ) : Serial σ κ :=
  ⟨.new sensitivity store sink, none⟩

/-- Make a move, if it can be made, and tell what the thread did. -/
def move? (serial : Serial σ κ) : Move → Option (Serial σ κ × List Action)
  | .call request =>
      match serial.call? with
      | some _ => none
      | none =>
          (serial.system.move? (.request request)).map fun moved =>
            (⟨moved.system, some (request, (serial.system.control.submit request).wait?)⟩,
              moved.actions)
  | .ret =>
      match serial.call? with
      | some (_, wait?) =>
          if wait?.all fun wait => wait.isOver serial.system.control then
            some (⟨serial.system, none⟩, [])
          else
            none
      | none => none
  | .turn surroundings =>
      (serial.system.move? (.turn surroundings)).map fun moved =>
        (⟨moved.system, serial.call?⟩, moved.actions)
  | .save offset =>
      (serial.system.move? (.save offset)).map fun moved =>
        (⟨moved.system, serial.call?⟩, moved.actions)

/-- Make moves one after another and gather what the thread did. -/
def run? (serial : Serial σ κ) : List Move → Option (Serial σ κ × List Action)
  | [] => some (serial, [])
  | move :: rest => do
      let (next, did) ← serial.move? move
      let (last, later) ← next.run? rest
      return (last, did ++ later)

/-- What a move may come to. -/
inductive Happens (serial : Serial σ κ) : Move → Serial σ κ → List Action → Prop
  | call {request : Request} (free : serial.call? = none)
      (held : serial.system.control.requested ≠ .shutdown) :
      Happens serial (.call request)
        ⟨serial.system.request request,
          some (request, (serial.system.control.submit request).wait?)⟩ []
  | ret {request : Request} {wait? : Option Wait} (pending : serial.call? = some (request, wait?))
      (ended : ∀ wait, wait? = some wait → wait.isOver serial.system.control = true) :
      Happens serial .ret ⟨serial.system, none⟩ []
  | turn {surroundings : Surroundings} {turn : Turn σ κ}
      (takes : serial.system.sampler.Takes serial.system.control serial.system.store
        surroundings turn) :
      Happens serial (.turn surroundings)
        ⟨⟨turn.control, turn.sampler, turn.store⟩, serial.call?⟩ turn.actions
  | save {offset : HardIronOffset} :
      Happens serial (.save offset)
        ⟨{ serial.system with
            store := (CalibrationStore.save serial.system.store offset).store }, serial.call?⟩ []

theorem happens_of_move? {serial next : Serial σ κ} {move : Move} {did : List Action}
    (made : serial.move? move = some (next, did)) : Happens serial move next did := by
  cases move with
  | call request =>
      unfold move? at made
      cases free : serial.call? with
      | some call => simp [free] at made
      | none =>
          simp only [free] at made
          obtain ⟨moved, move, same⟩ := Option.map_eq_some_iff.mp made
          cases System.move?_eq_some_iff.mp move with
          | request held =>
              cases same
              exact .call free held
  | ret =>
      unfold move? at made
      cases pending : serial.call? with
      | none => simp [pending] at made
      | some call =>
          obtain ⟨request, wait?⟩ := call
          simp only [pending] at made
          split at made
          · rename_i ended
            cases made
            apply Happens.ret pending
            intro wait waits
            rw [waits] at ended
            exact ended
          · contradiction
  | turn surroundings =>
      obtain ⟨moved, move, same⟩ := Option.map_eq_some_iff.mp made
      cases System.move?_eq_some_iff.mp move with
      | turn takes =>
          cases same
          exact .turn takes
  | save offset =>
      simp only [move?, System.move?, Option.map_some, Option.some.injEq, Prod.mk.injEq] at made
      obtain ⟨rfl, rfl⟩ := made
      exact .save

theorem run?_cons_eq_some_iff {serial last : Serial σ κ} {move : Move} {rest : List Move}
    {did : List Action} :
    serial.run? (move :: rest) = some (last, did) ↔
      ∃ next first later, serial.move? move = some (next, first) ∧
        next.run? rest = some (last, later) ∧ did = first ++ later := by
  simp only [run?, Option.bind_eq_bind, Option.bind_eq_some_iff, Option.pure_def,
    Option.some.injEq, Prod.mk.injEq, Prod.exists]
  constructor
  · rintro ⟨next, first, made, final, later, runs, rfl, rfl⟩
    exact ⟨next, first, later, made, runs, rfl⟩
  · rintro ⟨next, first, later, made, runs, rfl⟩
    exact ⟨next, first, made, last, later, runs, rfl, rfl⟩

/-- What every allowed move keeps, with the actions so far, holds at the end of
every run of allowed moves. -/
theorem run?_invariant (Allowed : Move → Prop) (Holds : List Action → Serial σ κ → Prop)
    (kept : ∀ ⦃done serial move next did⦄, Holds done serial → Allowed move →
      Happens serial move next did → Holds (done ++ did) next)
    {moves : List Move} {serial last : Serial σ κ} {did : List Action}
    (run : serial.run? moves = some (last, did)) (allowed : ∀ move ∈ moves, Allowed move)
    (start : Holds [] serial) : Holds did last := by
  suffices general : ∀ done, Holds done serial → Holds (done ++ did) last from general [] start
  clear start
  induction moves generalizing serial did with
  | nil =>
      simp only [run?, Option.some.injEq, Prod.mk.injEq] at run
      obtain ⟨rfl, rfl⟩ := run
      intro done holds
      rw [List.append_nil]
      exact holds
  | cons move rest ih =>
      obtain ⟨next, first, later, made, runs, rfl⟩ := run?_cons_eq_some_iff.mp run
      intro done holds
      have holdsNext : Holds (done ++ first) next :=
        kept holds (allowed move List.mem_cons_self) (happens_of_move? made)
      rw [← List.append_assoc]
      exact ih runs (fun move mem => allowed move (List.mem_cons_of_mem _ mem)) _ holdsNext

/-! ## Calls in order -/

/-- What holds while calls are made one after another. -/
structure Ordered (serial : Serial σ κ) : Prop where
  handshake : Handshake serial.system.control serial.system.sampler.position
  /-- When sampling is no longer asked for, a thread that has not settled yet is
  waited for. -/
  waited : serial.system.control.requested = .idle →
    serial.system.control.acknowledged = .sampling →
      ∃ request, serial.call? = some (request, some .stopped)
  /-- A session is not brought to its end while sampling is asked for. -/
  steady : serial.system.control.requested = .sampling →
    serial.system.sampler.position ≠ .closing ∧ serial.system.sampler.position ≠ .settling

namespace Ordered

variable {serial next : Serial σ κ} {did : List Action}

omit [CalibrationStore σ] [EventSink κ] in
theorem new (sensitivity : Sensitivity) (store : σ) (sink : κ) :
    Ordered (Serial.new sensitivity store sink) where
  handshake := .new
  waited := nofun
  steady := nofun

omit [CalibrationStore σ] [EventSink κ] in
/-- Without a call that waits, a thread that is not to sample is outside every
session. -/
theorem outside (ordered : Ordered serial) (free : serial.call? = none)
    (asked : serial.system.control.requested = .idle) :
    serial.system.control.acknowledged ≠ .sampling := by
  intro settled
  obtain ⟨request, pending⟩ := ordered.waited asked settled
  rw [free] at pending
  contradiction

omit [CalibrationStore σ] [EventSink κ] in
theorem call (ordered : Ordered serial) (free : serial.call? = none)
    (held : serial.system.control.requested ≠ .shutdown) (request : Request) :
    Ordered (⟨serial.system.request request,
      some (request, (serial.system.control.submit request).wait?)⟩ : Serial σ κ) := by
  constructor
  case handshake => exact ordered.handshake.submit held request
  case waited =>
    intro asked settled
    change (serial.system.control.submit request).control.requested = .idle at asked
    change (serial.system.control.submit request).control.acknowledged = .sampling at settled
    rw [Control.requested_submit] at asked
    rw [Control.acknowledged_submit] at settled
    cases request with
    | activate => contradiction
    | shutdown => contradiction
    | deactivate =>
        by_cases sampling : serial.system.control.isSampling = true
        · exact ⟨.deactivate, by simp [Control.submit, sampling]⟩
        · rw [if_neg sampling] at asked
          exact absurd settled (ordered.outside free asked)
    | flush | setDelay _ => exact absurd settled (ordered.outside free asked)
  case steady =>
    intro asked
    change (serial.system.control.submit request).control.requested = .sampling at asked
    rw [Control.requested_submit] at asked
    cases before : serial.system.control.requested with
    | sampling => exact ordered.steady before
    | shutdown => exact absurd before held
    | idle =>
        have parked := ordered.handshake.position_eq_parked (ordered.outside free before) held
        change serial.system.sampler.position ≠ .closing ∧
          serial.system.sampler.position ≠ .settling
        rw [parked]
        exact ⟨nofun, nofun⟩

omit [CalibrationStore σ] [EventSink κ] in
theorem ret {request : Request} {wait? : Option Wait} (ordered : Ordered serial)
    (pending : serial.call? = some (request, wait?))
    (ended : ∀ wait, wait? = some wait → wait.isOver serial.system.control = true) :
    Ordered (⟨serial.system, none⟩ : Serial σ κ) := by
  constructor
  case handshake => exact ordered.handshake
  case waited =>
    intro asked settled
    obtain ⟨waiting, waits⟩ := ordered.waited asked settled
    rw [pending] at waits
    cases waits
    have stopped := ended .stopped rfl
    simp only at asked settled
    simp [Wait.isOver, asked, settled] at stopped
  case steady => exact ordered.steady

theorem turn {surroundings : Surroundings} {turn : Turn σ κ} (ordered : Ordered serial)
    (takes : serial.system.sampler.Takes serial.system.control serial.system.store
      surroundings turn) :
    Ordered (⟨⟨turn.control, turn.sampler, turn.store⟩, serial.call?⟩ : Serial σ κ) := by
  constructor
  case handshake => exact ordered.handshake.turn takes
  case waited =>
    intro asked settled
    have before : serial.system.control.requested = .idle := takes.requested_eq.symm.trans asked
    rcases takes.acknowledged_eq with same | same
    · exact absurd (before.symm.trans (same.symm.trans settled)) nofun
    · exact ordered.waited before (same.symm.trans settled)
  case steady =>
    intro asked
    have before : serial.system.control.requested = .sampling :=
      takes.requested_eq.symm.trans asked
    constructor
    · intro closing
      have stopped := takes.isSampling_of_closing closing
      rw [serial.system.control.isSampling_eq_true_iff.mpr before] at stopped
      contradiction
    · intro settling
      exact (ordered.steady before).1 (takes.closing_of_settling settling)

/-- Every move keeps the order. -/
theorem happens {move : Move} (ordered : Ordered serial) (happens : Happens serial move next did) :
    Ordered next := by
  cases happens with
  | call free held => exact ordered.call free held _
  | ret pending ended => exact ordered.ret pending ended
  | turn takes => exact ordered.turn takes
  | save => exact ⟨ordered.handshake, ordered.waited, ordered.steady⟩

theorem run? {moves : List Move} (ordered : Ordered serial)
    (run : serial.run? moves = some (next, did)) : Ordered next :=
  run?_invariant (fun _ => True) (fun _ serial => Ordered serial)
    (fun _ _ _ _ _ holds _ moved => holds.happens moved) run (fun _ _ => trivial) ordered

end Ordered

/-! ## The barrier -/

/-- No call is made as long as another one has not returned. -/
theorem call_not_mem {serial last : Serial σ κ} {did : List Action} {moves : List Move}
    (run : serial.run? moves = some (last, did)) (pending : serial.call? ≠ none)
    (waiting : .ret ∉ moves) (request : Request) : .call request ∉ moves := by
  induction moves generalizing serial did with
  | nil => exact List.not_mem_nil
  | cons move rest ih =>
      obtain ⟨next, first, later, made, runs, rfl⟩ := run?_cons_eq_some_iff.mp run
      rw [List.mem_cons, not_or] at waiting ⊢
      obtain ⟨unreturned, waitingRest⟩ := waiting
      cases happens_of_move? made with
      | call free => exact absurd free pending
      | ret => exact absurd rfl unreturned
      | turn | save => exact ⟨nofun, ih runs pending waitingRest⟩

/-- Only calls change the phase that is asked for. -/
theorem requested_of_run? {serial last : Serial σ κ} {did : List Action} {moves : List Move}
    (run : serial.run? moves = some (last, did)) (uncalled : ∀ request, .call request ∉ moves) :
    last.system.control.requested = serial.system.control.requested := by
  refine run?_invariant (fun move => ∀ request, move ≠ .call request)
    (fun _ next => next.system.control.requested = serial.system.control.requested)
    (fun _ _ _ _ _ same allowed happens => ?_) run ?_ rfl
  · cases happens with
    | call => exact absurd rfl (allowed _)
    | turn takes => exact takes.requested_eq.trans same
    | ret | save => exact same
  · rintro move mem request rfl
    exact uncalled request mem

/-- A session on its way to the end: once the thread is out of it, the last thing
that it did was to write what the session then had. -/
def Ending (done : List Action) (serial : Serial σ κ) : Prop :=
  serial.system.sampler.position = .settling ∨ serial.system.sampler.position = .parked →
    ∃ front, done = front ++ [.persist (Sampler.offered serial.system.sampler.session)]

theorem Ending.happens {serial next : Serial σ κ} {done did : List Action} {move : Move}
    (ending : Ending done serial) (happens : Happens serial move next did) :
    Ending (done ++ did) next := by
  cases happens with
  | call | ret | save =>
      rw [List.append_nil]
      exact ending
  | turn takes =>
      rintro (settling | parked)
      · exact ⟨done, by rw [takes.actions_of_settling settling]⟩
      · obtain ⟨before, nothing, same⟩ := takes.of_parked parked
        rw [nothing, List.append_nil, same]
        exact ending before

theorem Ending.run? {serial last : Serial σ κ} {did : List Action} {moves : List Move}
    (ending : Ending [] serial) (run : serial.run? moves = some (last, did)) : Ending did last :=
  run?_invariant (fun _ => True) Ending
    (fun _ _ _ _ _ holds _ moved => holds.happens moved) run (fun _ _ => trivial) ending

/-- A driver that is not to sample and has done nothing, its thread outside every
session. -/
structure Quiet (done : List Action) (serial : Serial σ κ) : Prop where
  nothing : done = []
  asked : serial.system.control.requested ≠ .sampling
  outside : serial.system.sampler.position.inSession = false

omit [CalibrationStore σ] [EventSink κ] in
theorem Quiet.of_parked {serial : Serial σ κ} (idle : serial.system.control.requested = .idle)
    (parked : serial.system.sampler.position = .parked) : Quiet [] serial := by
  constructor
  case nothing => rfl
  case asked =>
    rw [idle]
    nofun
  case outside =>
    rw [parked]
    rfl

theorem Quiet.happens {serial next : Serial σ κ} {done did : List Action} {move : Move}
    (quiet : Quiet done serial) (inactive : move ≠ .call .activate)
    (happens : Happens serial move next did) :
    Quiet (done ++ did) next ∧
      ((∀ offset, move ≠ .save offset) → next.system.store = serial.system.store) := by
  obtain ⟨rfl, asked, outside⟩ := quiet
  cases happens with
  | @call request free held =>
      refine ⟨⟨rfl, ?_, outside⟩, fun _ => rfl⟩
      change (serial.system.control.submit request).control.requested ≠ .sampling
      have stopped : serial.system.control.isSampling ≠ true := fun sampling =>
        asked (serial.system.control.isSampling_eq_true_iff.mp sampling)
      rw [Control.requested_submit]
      cases request with
      | activate => exact absurd rfl inactive
      | deactivate =>
          rw [if_neg stopped]
          exact asked
      | shutdown => nofun
      | flush | setDelay _ => exact asked
  | ret => exact ⟨⟨rfl, asked, outside⟩, fun _ => rfl⟩
  | turn takes =>
      obtain ⟨outsideNext, nothing, store_eq⟩ := takes.of_outside outside asked
      have askedNext := fun sampling => asked (takes.requested_eq.symm.trans sampling)
      exact ⟨⟨nothing, askedNext, outsideNext⟩, fun _ => store_eq⟩
  | save => exact ⟨⟨rfl, asked, outside⟩, fun unsaved => absurd rfl (unsaved _)⟩

/-- Without a call to activate, a quiet driver does nothing, and its store is
left to the others. -/
theorem Quiet.run? {serial last : Serial σ κ} {did : List Action} {moves : List Move}
    (quiet : Quiet [] serial) (run : serial.run? moves = some (last, did))
    (inactive : .call .activate ∉ moves) :
    did = [] ∧ ((∀ offset, .save offset ∉ moves) → last.system.store = serial.system.store) := by
  have allowed : ∀ move ∈ moves, move ≠ .call .activate := by
    rintro move mem rfl
    exact inactive mem
  constructor
  · have quietLast : Quiet did last := run?_invariant (fun move => move ≠ .call .activate) Quiet
      (fun _ _ _ _ _ holds allowed moved => (holds.happens allowed moved).1) run allowed quiet
    exact quietLast.nothing
  · intro unsaved
    have untouched : ∀ move ∈ moves, move ≠ .call .activate ∧ ∀ offset, move ≠ .save offset := by
      intro move mem
      refine ⟨allowed move mem, ?_⟩
      rintro offset rfl
      exact unsaved offset mem
    have kept : Quiet did last ∧ last.system.store = serial.system.store := by
      refine run?_invariant (fun move => move ≠ .call .activate ∧ ∀ offset, move ≠ .save offset)
        (fun done next => Quiet done next ∧ next.system.store = serial.system.store)
        ?_ run untouched ⟨quiet, rfl⟩
      rintro done now move next did ⟨quietNow, same⟩ ⟨inactiveMove, unsavedMove⟩ moved
      obtain ⟨quietNext, stays⟩ := quietNow.happens inactiveMove moved
      exact ⟨quietNext, (stays unsavedMove).trans same⟩
    exact kept.2

omit [CalibrationStore σ] [EventSink κ] in
/-- A thread that is not parked when `deactivate` is called is in a session that
is not on its way to the end. -/
theorem Ordered.ending {serial : Serial σ κ} (ordered : Ordered serial)
    (free : serial.call? = none) (held : serial.system.control.requested ≠ .shutdown)
    (started : serial.system.sampler.position ≠ .parked) : Ending [] serial := by
  have sampling : serial.system.control.requested = .sampling := by
    cases before : serial.system.control.requested with
    | sampling => rfl
    | shutdown => exact absurd before held
    | idle =>
        have outside := ordered.outside free before
        exact absurd (ordered.handshake.position_eq_parked outside held) started
  rintro (settling | parked)
  · exact absurd settling (ordered.steady sampling).2
  · exact absurd parked started

/-- When a call returns while the thread is not to sample, the thread is parked. -/
theorem Ordered.parked_of_ret {serial returned : Serial σ κ} {did : List Action}
    (ordered : Ordered serial) (idle : serial.system.control.requested = .idle)
    (ret : serial.move? .ret = some (returned, did)) :
    returned.system = serial.system ∧
      serial.system.control.acknowledged ≠ .sampling ∧
      serial.system.sampler.position = .parked := by
  have orderedReturned : Ordered returned := ordered.happens (happens_of_move? ret)
  cases happens_of_move? ret with
  | ret =>
      have outside := orderedReturned.outside rfl idle
      have held : serial.system.control.requested ≠ .shutdown := by
        rw [idle]
        nofun
      exact ⟨rfl, outside, ordered.handshake.position_eq_parked outside held⟩

/-- What a call to deactivate has come to when it returns. -/
structure Barrier (called returned : Serial σ κ) (done : List Action) : Prop where
  /-- The thread is outside every session. -/
  outside : returned.system.control.acknowledged ≠ .sampling
  parked : returned.system.sampler.position = .parked
  /-- A thread that was parked at the call has done nothing. -/
  unstarted : called.system.sampler.position = .parked → done = []
  /-- The last that was done in a session is the write of its final offset. -/
  durable : called.system.sampler.position ≠ .parked →
    returned.system.sampler.session.calibrator.hasObservations = true →
      ∃ front, done = front ++ [.persist (some returned.system.sampler.session.offset)]

/-- Whatever is called but activate, the thread does nothing, and the store is
left to the others. -/
def Silent (serial : Serial σ κ) : Prop :=
  ∀ ⦃moves last done⦄, serial.run? moves = some (last, done) → .call .activate ∉ moves →
    done = [] ∧ ((∀ offset, .save offset ∉ moves) → last.system.store = serial.system.store)

/-- Among calls that are made one after another, `deactivate` is a barrier, for
every order of the turns of the thread: what a session has to write is written
when the call returns, and from then on nothing is done. -/
theorem barrier_of_deactivate (sensitivity : Sensitivity) (store : σ) (sink : κ)
    {before moves : List Move} {called waiting settled returned : Serial σ κ}
    {earlier asked done nothing : List Action}
    (reached : (Serial.new sensitivity store sink).run? before = some (called, earlier))
    (call : called.move? (.call .deactivate) = some (waiting, asked))
    (run : waiting.run? moves = some (settled, done)) (pending : .ret ∉ moves)
    (ret : settled.move? .ret = some (returned, nothing)) :
    Barrier called returned done ∧ returned.Silent := by
  have ordered : Ordered called := (Ordered.new sensitivity store sink).run? reached
  have orderedSettled : Ordered settled :=
    (ordered.happens (happens_of_move? call)).run? run
  cases happens_of_move? call with
  | call free held =>
      have uncalled := call_not_mem run nofun pending
      have idle : settled.system.control.requested = .idle :=
        (requested_of_run? run uncalled).trans (called.system.control.requested_deactivate held)
      obtain ⟨same, outside, parked⟩ := orderedSettled.parked_of_ret idle ret
      constructor
      · constructor
        case outside =>
          rw [same]
          exact outside
        case parked =>
          rw [same]
          exact parked
        case unstarted =>
          intro unstarted
          refine (Quiet.run? (.of_parked ?_ ?_) run (uncalled .activate)).1
          · exact called.system.control.requested_deactivate held
          · exact unstarted
        case durable =>
          intro started observed
          have ending := (ordered.ending free held started).happens (happens_of_move? call)
          obtain ⟨front, written⟩ := ending.run? run (.inr parked)
          rw [same] at observed ⊢
          rw [Sampler.offered, if_pos observed] at written
          exact ⟨front, written⟩
      · intro after last later onward inactive
        rw [← same] at idle parked
        exact (Quiet.of_parked idle parked).run? onward inactive

/-- The moves that bring a new driver to the sleep after its first sample. -/
def untilAsleep : List Move :=
  [.call .activate, .ret, .turn ⟨0, 0, none⟩, .turn ⟨0, 0, none⟩, .turn ⟨0, 0, none⟩,
    .turn ⟨5, 0, some (.ok ⟨1, 2, 3⟩)⟩, .turn ⟨5, 0, none⟩, .turn ⟨7, 0, none⟩,
    .turn ⟨7, 0, none⟩]

/-- A call to deactivate while the thread is asleep after its first sample. -/
theorem barrier_of_deactivate_asleep :
    ∃ called waiting settled returned : Serial MemoryStore (List Event),
      ∃ earlier asked done nothing,
        (Serial.new .neutral (.ofStored .empty) []).run? untilAsleep = some (called, earlier) ∧
          called.move? (.call .deactivate) = some (waiting, asked) ∧
          waiting.run? (.replicate 4 (.turn ⟨8, 0, none⟩)) = some (settled, done) ∧
          settled.move? .ret = some (returned, nothing) ∧
          Barrier called returned done ∧ returned.Silent := by
  have starts : ((Serial.new .neutral (MemoryStore.ofStored .empty) ([] : List Event)).run?
      untilAsleep).isSome := by decide +kernel
  let called := Option.get _ starts
  have calls : (called.1.move? (.call .deactivate)).isSome := by decide +kernel +revert
  let waiting := Option.get _ calls
  have runs : (waiting.1.run? (.replicate 4 (.turn ⟨8, 0, none⟩))).isSome := by
    decide +kernel +revert
  let settled := Option.get _ runs
  have returns : (settled.1.move? .ret).isSome := by decide +kernel +revert
  let returned := Option.get _ returns
  have pending : .ret ∉ List.replicate 4 (Move.turn ⟨8, 0, none⟩) := by simp
  exact ⟨called.1, waiting.1, settled.1, returned.1, called.2, waiting.2, settled.2, returned.2,
    Option.eq_some_of_isSome starts, Option.eq_some_of_isSome calls,
    Option.eq_some_of_isSome runs, Option.eq_some_of_isSome returns,
    barrier_of_deactivate _ _ _ (Option.eq_some_of_isSome starts)
      (Option.eq_some_of_isSome calls) (Option.eq_some_of_isSome runs) pending
      (Option.eq_some_of_isSome returns)⟩

end Serial

end Magnetometer.Lifecycle
