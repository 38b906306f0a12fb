import Magnetometer.Proofs.Daemon.Feed

/-!
# What a daemon comes to

A daemon that is stopped once its device is exhausted leaves behind what the
session by itself publishes and offers: its lines, in order, and its offset in the
file of the store, however often it was asked to write before.  This holds of
every schedule, and the run of the daemon is one of them.
-/

namespace Magnetometer.Daemon

open Lifecycle

variable {launch : Launch} {state middle next before after : State}

/-! ## Until the daemon is stopped -/

/-- The thread has not loaded, or is asked for and works. -/
def Started (launch : Launch) (state : State) : Prop :=
  Early launch state.run.system state.device ∨
    state.run.system.control.isSampling = true ∧
      ∃ taken, Fed launch taken state.run.system state.device

/-- The session took in every sample of the device. -/
def Finished (launch : Launch) (state : State) : Prop :=
  Fed launch launch.samples state.run.system state.device

/-- A request that does not take back another one to sample. -/
def IsCarryingOn (request : Request) : Prop := request ≠ .deactivate ∧ request ≠ .shutdown

theorem IsCarryingOn.isSampling_submit {request : Request} (carriesOn : IsCarryingOn request)
    {control : Control} (sampling : control.isSampling = true) :
    (control.submit request).control.isSampling = true := by
  rw [Control.isSampling_eq_true_iff] at *
  rw [Control.requested_submit]
  cases request with
  | activate => rfl
  | deactivate => exact absurd rfl carriesOn.1
  | shutdown => exact absurd rfl carriesOn.2
  | flush | setDelay => exact sampling

theorem IsCarryingOn.held {request : Request} (carriesOn : IsCarryingOn request)
    {control : Control} (held : control.requested ≠ .shutdown) :
    (control.submit request).control.requested ≠ .shutdown := by
  rw [Control.requested_submit]
  cases request with
  | activate => nofun
  | deactivate => exact absurd rfl carriesOn.1
  | shutdown => exact absurd rfl carriesOn.2
  | flush | setDelay => exact held

/-- No whole record is left to the thread, neither in the device nor in hand. -/
structure State.Exhausted (state : State) : Prop where
  left : state.device.recordsLeft state.run.system.store.files = 0
  inHand_eq : inHand state.run.system.sampler.position = []
  working : isWorking state.run.system.sampler.position = true

theorem started_start (launch : Launch) (clock : ManualClock) :
    Started launch (launch.start clock) := .inl ⟨.inl ⟨rfl, nofun⟩, rfl, rfl, rfl, rfl⟩

/-- Whether a thread at a place may not have loaded yet. -/
def isEarly : Position → Bool
  | .parked | .loading => true
  | _ => false

/-- Until it loads the thread is at no other place. -/
theorem Early.not_elsewhere {system : System FileStore AnySink} {device : Device}
    (early : Early launch system device) {position : Position}
    (place : system.sampler.position = position) (elsewhere : isEarly position = false) :
    False := by
  rw [← place] at elsewhere
  rcases early.place with ⟨here, -⟩ | ⟨here, -⟩
  · rw [here] at elsewhere
    contradiction
  · rw [here] at elsewhere
    contradiction

/-- A thread that has just loaded has taken in nothing. -/
theorem Early.load {system : System FileStore AnySink} {device : Device}
    (early : Early launch system device) (sound : launch.Sound)
    (sampling : system.control.isSampling = true) :
    Fed launch []
      ⟨system.control,
        ⟨.starting, (system.sampler.session.restore system.store).session, system.sampler.sink⟩,
        (system.sampler.session.restore system.store).store⟩ device := by
  obtain ⟨-, -, store_eq⟩ := Session.restore_eq system.sampler.session system.store
  have loaded : (system.sampler.session.restore system.store).store = launch.store := by
    rw [store_eq, early.store_eq]
    exact FileStore.store_load _
  rw [loaded]
  constructor
  case session_eq =>
    rw [early.session_eq, early.store_eq]
    rfl
  case printed => exact ⟨[], early.sink_eq, rfl⟩
  case kept => exact .same
  case written | idled =>
    intro elsewhere
    contradiction
  case location_eq => rw [early.device_eq]
  case whole =>
    rw [early.device_eq, Device.unread, sound.unread]
    rfl
  case asked => exact .inl sampling

/-- Until it loads the thread only settles into sampling. -/
theorem Early.turn {system : System FileStore AnySink} {device : Device}
    (early : Early launch system device) (sound : launch.Sound) {surroundings : Surroundings}
    {turn : Turn FileStore AnySink}
    (takes : system.sampler.Takes system.control system.store surroundings turn) :
    Early launch ⟨turn.control, turn.sampler, turn.store⟩ device ∨
      turn.control.isSampling = true ∧
        Fed launch [] ⟨turn.control, turn.sampler, turn.store⟩ device := by
  cases takes with
  | begin place asked =>
      exact .inl ⟨.inr ⟨rfl, system.control.isSampling_eq_true_iff.mpr asked⟩, early.session_eq,
        early.sink_eq, early.store_eq, early.device_eq⟩
  | leave place asked =>
      rcases early.place with ⟨-, held⟩ | ⟨here, -⟩
      · exact absurd asked held
      · rw [here] at place
        contradiction
  | park place asked =>
      have held : system.control.requested ≠ .shutdown := by
        rw [asked]
        exact Phase.noConfusion
      exact .inl ⟨.inl ⟨rfl, held⟩, early.session_eq, early.sink_eq, early.store_eq,
        early.device_eq⟩
  | load place =>
      rcases early.place with ⟨here, -⟩ | ⟨-, sampling⟩
      · rw [here] at place
        contradiction
      · exact .inr ⟨sampling, early.load sound sampling⟩
  | beginRead place | endRead place | proceed place | discard place | publish place | fail place
  | rest place | stop place | serve place | awake place | flush place | mark place | close place
  | settle place => exact (early.not_elsewhere place rfl).elim

/-- A step of the thread takes in the sample in hand or none. -/
theorem Fed.step {taken : List Sample} (fed : Fed launch taken state.run.system state.device)
    (sound : launch.Sound) (step : state.Step next) :
    next.run.system.control.isSampling = state.run.system.control.isSampling ∧
      ∃ more, taken <+: more ∧ Fed launch more next.run.system next.device := by
  cases step with
  | turn taken =>
      obtain ⟨turn, takes, rfl⟩ := Run.turn?_eq_some_iff.mp taken
      exact ⟨takes.isSampling_eq, fed.turn sound takes rfl⟩
  | read reading taken =>
      obtain ⟨started, place⟩ := Run.isReading_eq_true_iff.mp reading
      obtain ⟨turn, takes, rfl⟩ := Run.turn?_eq_some_iff.mp taken
      refine ⟨takes.isSampling_eq, _, List.prefix_rfl, ?_⟩
      cases takes with
      | endRead here given =>
          cases given
          exact fed.read sound here
      | begin here | leave here | park here | load here | beginRead here | proceed here
      | discard here | publish here | fail here | rest here | stop here | serve here | awake here
      | flush here | mark here | close here | settle here =>
          rw [place] at here
          contradiction
  | pass clock instant => exact ⟨rfl, _, List.prefix_rfl, fed⟩

/-- A request changes nothing that the thread has done. -/
theorem Fed.hand {taken : List Sample} (fed : Fed launch taken state.run.system state.device)
    {request : Request}
    (asked : (state.hand request).run.system.control.isSampling = true ∨
      inHand state.run.system.sampler.position = [] ∧
        Record.samples (state.device.unread launch.content) = [])
    (idled : isWorking state.run.system.sampler.position = false →
      (state.hand request).run.system.control.isSampling = false) :
    Fed launch taken (state.hand request).run.system (state.hand request).device :=
  ⟨fed.session_eq, fed.printed, fed.kept, fed.written, fed.location_eq, fed.whole, asked,
    fun idle => ⟨idled idle, (fed.idled idle).2⟩⟩

theorem Started.step (started : Started launch middle) (sound : launch.Sound)
    (step : middle.Step next) : Started launch next := by
  rcases started with early | ⟨sampling, taken, fed⟩
  · cases step with
    | turn taken =>
        obtain ⟨turn, takes, rfl⟩ := Run.turn?_eq_some_iff.mp taken
        exact (early.turn sound takes).imp_right fun loaded => ⟨loaded.1, _, loaded.2⟩
    | read reading =>
        obtain ⟨started, place⟩ := Run.isReading_eq_true_iff.mp reading
        exact (early.not_elsewhere place rfl).elim
    | pass clock instant => exact .inl early
  · obtain ⟨asked_eq, more, -, fedMore⟩ := fed.step sound step
    exact .inr ⟨asked_eq.trans sampling, more, fedMore⟩

theorem Started.hand (started : Started launch middle) {request : Request}
    (carriesOn : IsCarryingOn request) : Started launch (middle.hand request) := by
  rcases started with early | ⟨sampling, taken, fed⟩
  · refine .inl ⟨?_, early.session_eq, early.sink_eq, early.store_eq, early.device_eq⟩
    exact early.place.imp (And.imp_right fun held => carriesOn.held held)
      (And.imp_right fun sampling => carriesOn.isSampling_submit sampling)
  · have still : (middle.hand request).run.system.control.isSampling = true :=
      carriesOn.isSampling_submit sampling
    refine .inr ⟨still, taken, fed.hand (.inl still) fun idle => ?_⟩
    rw [(fed.idled idle).1] at sampling
    contradiction

/-- Once its device is exhausted, the session took in every sample. -/
theorem Started.finished (started : Started launch state) (sound : launch.Sound)
    (exhausted : state.Exhausted) : Finished launch state := by
  rcases started with early | ⟨-, taken, fed⟩
  · have working := exhausted.working
    rcases early.place with ⟨here, -⟩ | ⟨here, -⟩
    · rw [here] at working
      contradiction
    · rw [here] at working
      contradiction
  · have whole := fed.whole
    have none := Device.samples_unread_of_recordsLeft (fed.stream sound) exhausted.left
    rw [exhausted.inHand_eq, none, List.append_nil, List.append_nil] at whole
    rw [whole] at fed
    exact fed

/-! ## From then on -/

theorem Finished.step (finished : Finished launch middle) (sound : launch.Sound)
    (step : middle.Step next) : Finished launch next := by
  obtain ⟨-, more, longer, fed⟩ := Fed.step finished sound step
  have shorter : more <+: launch.samples := by
    rw [← fed.whole, List.append_assoc]
    exact List.prefix_append _ _
  rw [← longer.eq_of_length_le shorter.length_le] at fed
  exact fed

theorem Finished.hand (finished : Finished launch middle) {request : Request}
    (stops : ¬IsCarryingOn request) : Finished launch (middle.hand request) := by
  have whole := finished.whole
  rw [List.append_assoc, List.append_right_eq_self, List.append_eq_nil_iff] at whole
  refine Fed.hand finished (.inr whole) fun idle => ?_
  have stopped := (finished.idled idle).1
  unfold IsCarryingOn at stops
  rw [not_and_or, not_not, not_not] at stops
  change (middle.run.system.control.submit request).control.isSampling = false
  rw [Control.isSampling, Control.requested_submit]
  rcases stops with rfl | rfl
  · dsimp only
    rw [stopped, if_neg Bool.false_ne_true]
    exact stopped
  · rfl

/-! ## What is left behind -/

/-- What the daemon comes to if it ends in a state. -/
def State.outcome (state : State) : Outcome :=
  ⟨state.run.system.store.files, state.run.system.sampler.sink.takeBytes.2, state.run.notices, none⟩

/-- What a daemon leaves behind is what the session by itself makes of the samples
of the device. -/
structure Replays (launch : Launch) (outcome : Outcome) : Prop where
  exitCode_eq : outcome.exitCode = 0
  /-- Every sample has its line, and the lines hold the vectors that the session
  publishes, in order. -/
  lines_eq : ∃ events : List Event,
    Text.splitAt 10 outcome.output = events.map JsonLines.line ++ [[]] ∧
      events.length = launch.samples.length ∧
      events.map Event.vector = (launch.restored.replay launch.samples).2.map Event.vector
  /-- A session that observed something leaves its offset in the file. -/
  read_eq : (launch.restored.replay launch.samples).1.calibrator.hasObservations = true →
    outcome.files.read launch.store.path =
      .ok (Text.Utf8.encode (Store.render (launch.restored.replay launch.samples).1.offset))
  /-- A session that observed nothing leaves all files as they were. -/
  files_eq : (launch.restored.replay launch.samples).1.calibrator.hasObservations = false →
    outcome.files = launch.store.files

theorem Finished.replays (finished : Finished launch state) (sound : launch.Sound)
    (gone : state.run.system.sampler.position = .gone) : Replays launch state.outcome := by
  have store_eq := finished.written (by rw [gone]; rfl)
  rw [finished.session_eq] at store_eq
  constructor
  case exitCode_eq => rfl
  case lines_eq =>
    obtain ⟨events, sink_eq, vectors_eq⟩ := finished.printed
    refine ⟨events, ?_, ?_, vectors_eq⟩
    · rw [State.outcome, sink_eq, AnySink.lines_ofWritten]
    · have lengths := congrArg List.length vectors_eq
      rw [List.length_map, List.length_map, Session.length_replay] at lengths
      exact lengths
  case read_eq =>
    intro observed
    rw [State.outcome, store_eq]
    exact (Session.restore_of_persist observed (FileStore.accepts_of_keeps sound.keeps _)).2.1
  case files_eq =>
    intro unobserved
    rw [State.outcome, store_eq, Session.persist, if_neg (by rw [unobserved]; nofun)]

/-- Whatever the schedule, a daemon that is stopped once its device is exhausted
leaves behind what the session makes of the samples. -/
theorem replays_of_reaches (sound : launch.Sound) {clock : ManualClock} {requests : List Request}
    (reaches : (launch.start clock).Reaches requests before)
    (carriesOn : ∀ request ∈ requests, IsCarryingOn request) (exhausted : before.Exhausted)
    (stops : before.Reaches [.deactivate, .shutdown] after)
    (gone : after.run.system.sampler.position = .gone) : Replays launch after.outcome := by
  have started : Started launch before :=
    reaches.keeps carriesOn (fun _ _ started => started.step sound)
      (fun _ _ started => started.hand) (started_start launch clock)
  have stopping : ∀ request ∈ [Request.deactivate, .shutdown], ¬IsCarryingOn request := by
    simp [IsCarryingOn]
  have finished : Finished launch after :=
    stops.keeps stopping (fun _ _ finished => finished.step sound)
      (fun _ _ finished => finished.hand) (started.finished sound exhausted)
  exact finished.replays sound gone

end Magnetometer.Daemon
