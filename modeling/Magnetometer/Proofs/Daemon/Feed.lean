import Magnetometer.Proofs.Calibration.Observed
import Magnetometer.Proofs.Daemon.Schedule
import Magnetometer.Proofs.FileSystem.Beside
import Magnetometer.Proofs.Sink.JsonLines
import Magnetometer.Proofs.Source.Device
import Magnetometer.Proofs.Lifecycle.Transparency

/-!
# How far a daemon has come

What a daemon does with its device is what a session does that takes in samples
and publishes after each of them.  `Fed` says how far it has come: which samples
its session took in, that its lines are what was published, what its writes made
of the store, and that the samples of the device are those taken in, the one in
hand and those not read yet.  Every step keeps this.
-/

namespace Magnetometer

/-! ## The session by itself -/

namespace Session

/-- Take in a sample and publish after it. -/
def take (pair : Session × List Event) (sample : Sample) : Session × List Event :=
  let s := (pair.1.ingest sample).1
  (s, (s.publish 0 pair.2).2.1)

/-- Take in samples one after another and publish after each of them: the session
that this leads to, and the events, all of them at time zero. -/
def replay (s : Session) (samples : List Sample) : Session × List Event :=
  samples.foldl take (s, [])

theorem replay_concat (s : Session) (samples : List Sample) (sample : Sample) :
    s.replay (samples ++ [sample]) = take (s.replay samples) sample :=
  List.foldl_append

/-- The vector that is published does not depend on the time. -/
theorem vectors_take {s : Session} {events : List Event} {sample : Sample} {event : Event}
    {timestamp : UInt64} (published : (s.ingest sample).1.event? timestamp = some event) :
    (take (s, events) sample).2.map Event.vector =
      events.map Event.vector ++ [event.vector] := by
  obtain ⟨vector, found, rfl⟩ := Option.map_eq_some_iff.mp published
  have publishedAtZero : (s.ingest sample).1.event? 0 = some ⟨0, vector⟩ := by
    rw [event?, found]
    rfl
  simp [take, publish, publishedAtZero, EventSink.emit]

/-- Every sample has its event. -/
theorem length_replay (s : Session) (samples : List Sample) :
    (s.replay samples).2.length = samples.length := by
  induction samples using List.reverseRecOn with
  | nil => rfl
  | append_singleton samples sample ih =>
      obtain ⟨event, published⟩ := (s.replay samples).1.exists_event?_ingest sample 0
      have vectors_eq : (take (s.replay samples) sample).2.map Event.vector =
          (s.replay samples).2.map Event.vector ++ [event.vector] := vectors_take published
      have longer := congrArg List.length vectors_eq
      rw [List.length_append, List.length_map, List.length_map] at longer
      rw [replay_concat, List.length_append, ← ih]
      exact longer

theorem ordered_replay {s : Session} (ordered : s.Ordered) (samples : List Sample) :
    (s.replay samples).1.Ordered := by
  induction samples using List.reverseRecOn with
  | nil => exact ordered
  | append_singleton samples sample ih =>
      rw [replay_concat]
      exact ih.ingest sample

end Session

/-! ## What writes make of a store -/

namespace FileStore

/-- What the writes of a session make of a store; a session that observed nothing
writes nothing. -/
inductive Kept (origin : FileStore) (s : Session) : FileStore → Prop
  | same : Kept origin s origin
  | saved (observed : s.calibrator.hasObservations = true) (offset : HardIronOffset) :
      Kept origin s (origin.save offset).store

variable {origin store : FileStore} {s : Session}

theorem Kept.ingest (kept : Kept origin s store) (ordered : s.Ordered) (sample : Sample) :
    Kept origin (s.ingest sample).1 store := by
  cases kept with
  | same => exact .same
  | saved observed offset => exact .saved (ordered.hasObservations_ingest observed sample) offset

/-- Of the writes of a session only the last one counts. -/
theorem Kept.store_persist (kept : Kept origin s store)
    (accepts : ∀ offset, (origin.save offset).result = .ok ()) :
    (s.persist store).store = (s.persist origin).store := by
  cases kept with
  | same => rfl
  | saved observed offset =>
      unfold Session.persist
      rw [if_pos observed, if_pos observed]
      change ((origin.save offset).store.save s.offset).store = (origin.save s.offset).store
      rw [save_save (accepts offset)]

theorem kept_persist (origin : FileStore) (s : Session) :
    Kept origin s (s.persist origin).store := by
  unfold Session.persist
  split
  · rename_i observed
    exact .saved observed s.offset
  · exact .same

/-- Where a file can be kept, every offset is saved. -/
theorem accepts_of_keeps (keeps : origin.files.Keeps origin.path) (offset : HardIronOffset) :
    (origin.save offset).result = .ok () := by
  obtain ⟨after, written⟩ := keeps.exists_written (Text.Utf8.encode (Store.render offset))
  unfold save
  rw [written]

/-- A store whose file is another one leaves a file as it is. -/
theorem Kept.contentAt_eq {path : Path} {location : Location} {content : Bytes}
    (kept : Kept origin s store) (keeps : origin.files.Keeps origin.path)
    (apart : origin.files.Apart origin.path path) (leads : origin.files.resolve path = .ok location)
    (stream : origin.files.contentAt location = .ok content) :
    store.files.contentAt location = .ok content := by
  cases kept with
  | same => exact stream
  | saved observed offset =>
      obtain ⟨after, written⟩ := keeps.exists_written (Text.Utf8.encode (Store.render offset))
      have stands : origin.files.find? location = some (.file content) := by
        unfold FileSystem.contentAt at stream
        split at stream
        · rename_i found
          rw [found, Except.ok.inj stream]
        · contradiction
        · contradiction
      have elsewhere : after.resolve origin.path ≠ .ok location := by
        rw [← leads]
        exact apart _ _ written
      have still := FileSystem.find?_writeWithDirectories written elsewhere stands
      have after_eq : (origin.save offset).store.files = after := by
        unfold save
        rw [written]
      rw [after_eq, FileSystem.contentAt, still]

end FileStore

/-! ## What is written of events -/

namespace AnySink

/-- A sink of JSON lines that wrote out some events one after another. -/
def ofWritten (events : List Event) : AnySink :=
  .lines ⟨⟨events.flatMap fun event => JsonLines.line event ++ [10], none, false⟩, false⟩

theorem writeAll_unlimited (taken bytes : Bytes) :
    ByteWriter.writeAll (⟨taken, none, false⟩ : BudgetWriter) bytes =
      (⟨taken ++ bytes, none, false⟩, .ok ()) := by
  cases bytes with
  | nil => simp [ByteWriter.writeAll, ByteWriter.writeAllWithin]
  | cons b rest =>
      unfold ByteWriter.writeAll
      rw [List.length_cons, ByteWriter.writeAllWithin, if_neg (List.cons_ne_nil b rest)]
      cases rest with
      | nil => rfl
      | cons c rest => simp [ByteWriter.write, ByteWriter.writeAllWithin]

/-- A sink without limits writes out every event. -/
theorem emit_ofWritten (events : List Event) (event : Event) :
    (EventSink.emit (ofWritten events) event).1 = ofWritten (events ++ [event]) := by
  have parts : ByteWriter.writeParts (⟨events.flatMap fun event => JsonLines.line event ++ [10],
      none, false⟩ : BudgetWriter) [JsonLines.line event, [10]] =
        (⟨(events ++ [event]).flatMap fun event => JsonLines.line event ++ [10], none, false⟩,
          .ok ()) := by
    simp [ByteWriter.writeParts, writeAll_unlimited]
  simp [ofWritten, EventSink.emit, JsonLines.writeEvent, parts, ByteWriter.flush]

/-- The lines of what was written, with the empty one after the last. -/
theorem lines_ofWritten (events : List Event) :
    Text.splitAt 10 (ofWritten events).takeBytes.2 = events.map JsonLines.line ++ [[]] := by
  have pieces : (ofWritten events).takeBytes.2 =
      (events.map JsonLines.line).flatMap fun line => line ++ [10] := by
    rw [List.flatMap_map]
    rfl
  rw [pieces, Text.splitAt_flatMap]
  intro line mem
  obtain ⟨event, -, rfl⟩ := List.mem_map.mp mem
  exact JsonLines.lineFeed_not_mem_line event

end AnySink

namespace Daemon

open Lifecycle

/-! ## Launches -/

/-- What a daemon starts from. -/
structure Launch where
  sensitivity : Sensitivity
  /-- The store before the daemon. -/
  store : FileStore
  /-- The device as it was opened. -/
  device : Device
  /-- Content of the file of the device. -/
  content : Bytes

namespace Launch

/-- The session restored from the store. -/
def restored (launch : Launch) : Session :=
  ((Session.new launch.sensitivity).restore launch.store).session

/-- The samples of the device. -/
def samples (launch : Launch) : List Sample := Record.samples launch.content

/-- The daemon before its first request. -/
def start (launch : Launch) (clock : ManualClock) : State :=
  ⟨.ofSystem (.new launch.sensitivity launch.store (.ofWritten [])) clock 0, launch.device⟩

/-- The device is a file, a file can be kept in the store, and they are not the
same. -/
structure Sound (launch : Launch) : Prop where
  leads : launch.store.files.resolve launch.device.path = .ok launch.device.location
  stream : launch.store.files.contentAt launch.device.location = .ok launch.content
  unread : launch.device.position = 0
  keeps : launch.store.files.Keeps launch.store.path
  apart : launch.store.files.Apart launch.store.path launch.device.path

theorem ordered_restored (launch : Launch) : launch.restored.Ordered := by
  unfold restored
  rw [(Session.restore_eq _ _).1]
  exact (Session.ordered_new _).restoredFrom _

end Launch

/-! ## Places of the thread -/

/-- The sample that a thread at a place has read and not yet taken in. -/
def inHand : Position → List Sample
  | .checking _ (.ok sample) | .handling _ (.ok sample) => [sample]
  | _ => []

/-- Whether a thread at a place has loaded and does not come to its final write. -/
def isWorking : Position → Bool
  | .parked | .loading | .closing | .settling | .gone => false
  | _ => true

theorem inHand_checking (started : UInt64) (outcome : Except SensorError Sample) :
    inHand (.checking started outcome) = outcome.toOption.toList := by
  cases outcome <;> rfl

theorem inHand_handling (started : UInt64) (outcome : Except SensorError Sample) :
    inHand (.handling started outcome) = outcome.toOption.toList := by
  cases outcome <;> rfl

theorem owesFinal_of_isWorking {position : Position} (working : isWorking position = true) :
    position.owesFinal = true := by
  cases position <;> first | rfl | contradiction

/-! ## Progress -/

variable {launch : Launch} {taken : List Sample} {system : System FileStore AnySink}
  {device : Device}

/-- A daemon that has not loaded yet. -/
structure Early (launch : Launch) (system : System FileStore AnySink) (device : Device) :
    Prop where
  place : system.sampler.position = .parked ∧ system.control.requested ≠ .shutdown ∨
    system.sampler.position = .loading ∧ system.control.isSampling = true
  session_eq : system.sampler.session = .new launch.sensitivity
  sink_eq : system.sampler.sink = .ofWritten []
  store_eq : system.store = launch.store
  device_eq : device = launch.device

/-- A daemon whose session has taken in some samples. -/
structure Fed (launch : Launch) (taken : List Sample) (system : System FileStore AnySink)
    (device : Device) : Prop where
  session_eq : system.sampler.session = (launch.restored.replay taken).1
  printed : ∃ events, system.sampler.sink = .ofWritten events ∧
    events.map Event.vector = (launch.restored.replay taken).2.map Event.vector
  kept : FileStore.Kept launch.store system.sampler.session system.store
  /-- After the final write the store is what this write alone makes of it. -/
  written : system.sampler.position.owesFinal = false →
    system.store = (system.sampler.session.persist launch.store).store
  location_eq : device.location = launch.device.location
  whole : taken ++ inHand system.sampler.position ++ Record.samples (device.unread launch.content) =
    launch.samples
  /-- When sampling is no longer asked for, no sample is left. -/
  asked : system.control.isSampling = true ∨ inHand system.sampler.position = [] ∧
    Record.samples (device.unread launch.content) = []
  idled : isWorking system.sampler.position = false →
    system.control.isSampling = false ∧ system.sampler.position ≠ .loading

namespace Fed

theorem stream (fed : Fed launch taken system device) (sound : launch.Sound) :
    system.store.files.contentAt device.location = .ok launch.content := by
  rw [fed.location_eq]
  exact fed.kept.contentAt_eq sound.keeps sound.apart sound.leads sound.stream

/-- The thread goes on and does nothing else. -/
theorem go (fed : Fed launch taken system device) {control : Control} {position : Position}
    (asked_eq : control.isSampling = system.control.isSampling)
    (inHand_eq : inHand position = inHand system.sampler.position)
    (written : position.owesFinal = false → system.sampler.position.owesFinal = false)
    (idled : isWorking position = false →
      system.control.isSampling = false ∧ position ≠ .loading) :
    Fed launch taken ⟨control, system.sampler.move position, system.store⟩ device where
  session_eq := fed.session_eq
  printed := fed.printed
  kept := fed.kept
  written settled := fed.written (written settled)
  location_eq := fed.location_eq
  whole := by
    rw [Sampler.position_move, inHand_eq]
    exact fed.whole
  asked := by
    rw [Sampler.position_move, inHand_eq, asked_eq]
    exact fed.asked
  idled := by
    rw [asked_eq]
    exact idled

/-- The thread goes on to work. -/
theorem work (fed : Fed launch taken system device) {control : Control} {position : Position}
    (asked_eq : control.isSampling = system.control.isSampling)
    (inHand_eq : inHand position = inHand system.sampler.position)
    (working : isWorking position = true) :
    Fed launch taken ⟨control, system.sampler.move position, system.store⟩ device := by
  refine fed.go asked_eq inHand_eq ?_ ?_
  · rw [owesFinal_of_isWorking working]
    nofun
  · rw [working]
    nofun

/-- The thread leaves its session without a sample. -/
theorem close (fed : Fed launch taken system device)
    (stopped : system.control.isSampling = false) :
    Fed launch taken ⟨system.control, system.sampler.move .closing, system.store⟩ device := by
  refine fed.go rfl ?_ nofun fun _ => ⟨stopped, nofun⟩
  rcases fed.asked with sampling | ⟨none, -⟩
  · rw [stopped] at sampling
    contradiction
  · exact none.symm

/-- The session takes in the sample that the thread has in hand. -/
theorem publish (fed : Fed launch taken system device) {started : UInt64} {sample : Sample}
    (place : system.sampler.position = .handling started (.ok sample)) {clock : UInt64}
    {event : Event}
    (published : (system.sampler.session.ingest sample).1.event? clock = some event) :
    Fed launch (taken ++ [sample])
      ⟨system.control,
        ⟨.resting started, (system.sampler.session.ingest sample).1,
          (EventSink.emit system.sampler.sink event).1⟩, system.store⟩ device where
  session_eq := by
    rw [Session.replay_concat, fed.session_eq]
    rfl
  printed := by
    obtain ⟨events, sink_eq, vectors_eq⟩ := fed.printed
    rw [fed.session_eq] at published
    refine ⟨events ++ [event], ?_, ?_⟩
    · rw [sink_eq, AnySink.emit_ofWritten]
    · rw [Session.replay_concat, Session.vectors_take published, List.map_append, vectors_eq]
      rfl
  kept := by
    refine fed.kept.ingest ?_ sample
    rw [fed.session_eq]
    exact Session.ordered_replay launch.ordered_restored taken
  written := nofun
  location_eq := fed.location_eq
  whole := by
    have whole := fed.whole
    rw [place] at whole
    rw [← whole]
    simp [inHand]
  asked := by
    rcases fed.asked with sampling | ⟨none, -⟩
    · exact .inl sampling
    · rw [place] at none
      contradiction
  idled := nofun

/-- The session is written, and the thread goes on. -/
theorem persist (fed : Fed launch taken system device) (sound : launch.Sound)
    {position : Position} (none : inHand system.sampler.position = [])
    (noneNext : inHand position = [])
    (idled : isWorking position = false →
      system.control.isSampling = false ∧ position ≠ .loading) :
    Fed launch taken
      ⟨system.control, system.sampler.move position,
        (system.sampler.session.persist system.store).store⟩ device := by
  rw [fed.kept.store_persist (FileStore.accepts_of_keeps sound.keeps)]
  constructor
  case session_eq => exact fed.session_eq
  case printed => exact fed.printed
  case kept => exact FileStore.kept_persist _ _
  case written => exact fun _ => rfl
  case location_eq => exact fed.location_eq
  case whole =>
    rw [Sampler.position_move, noneNext, ← none]
    exact fed.whole
  case asked => exact fed.asked.imp_right fun left => ⟨noneNext, left.2⟩
  case idled => exact idled

/-- Every turn of the thread takes in the sample in hand or none. -/
theorem turn (fed : Fed launch taken system device) (sound : launch.Sound)
    {surroundings : Surroundings} {turn : Turn FileStore AnySink}
    (takes : system.sampler.Takes system.control system.store surroundings turn)
    (blocked : surroundings.read? = none) :
    ∃ more, taken <+: more ∧ Fed launch more ⟨turn.control, turn.sampler, turn.store⟩ device := by
  have idled := fed.idled
  cases takes with
  | begin place asked =>
      rw [place, system.control.isSampling_eq_true_iff.mpr asked] at idled
      exact absurd (idled rfl).1 nofun
  | load place => exact absurd place (idled (by rw [place]; rfl)).2
  | leave place | park place =>
      rw [place] at idled
      exact ⟨taken, List.prefix_rfl, fed.go rfl (congrArg inHand place).symm
        (fun _ => congrArg Position.owesFinal place) fun _ => ⟨(idled rfl).1, nofun⟩⟩
  | endRead place given =>
      rw [blocked] at given
      contradiction
  | proceed place =>
      refine ⟨taken, List.prefix_rfl, fed.work rfl ?_ rfl⟩
      rw [place, inHand_checking, inHand_handling]
  | beginRead place | fail place | rest place | serve place | awake place | mark place =>
      exact ⟨taken, List.prefix_rfl, fed.work rfl (congrArg inHand place).symm rfl⟩
  | discard _ stopped | stop _ stopped => exact ⟨taken, List.prefix_rfl, fed.close stopped⟩
  | publish place published => exact ⟨_, List.prefix_append _ _, fed.publish place published⟩
  | flush place =>
      exact ⟨taken, List.prefix_rfl, fed.persist sound (congrArg inHand place) rfl nofun⟩
  | close place =>
      rw [place] at idled
      exact ⟨taken, List.prefix_rfl,
        fed.persist sound (congrArg inHand place) rfl fun _ => ⟨(idled rfl).1, nofun⟩⟩
  | settle place =>
      rw [place] at idled
      exact ⟨taken, List.prefix_rfl, fed.go rfl (congrArg inHand place).symm
        (fun _ => congrArg Position.owesFinal place) fun _ => ⟨(idled rfl).1, nofun⟩⟩

/-- A read puts the sample of a ready record in hand. -/
theorem read (fed : Fed launch taken system device) (sound : launch.Sound) {started : UInt64}
    (place : system.sampler.position = .reading started) :
    Fed launch taken
      ⟨system.control,
        system.sampler.move (.checking started (device.acquire system.store.files).2),
        system.store⟩
      (device.acquire system.store.files).1 := by
  have stream := fed.stream sound
  have left : inHand (.checking started (device.acquire system.store.files).2) ++
      Record.samples ((device.acquire system.store.files).1.unread launch.content) =
        Record.samples (device.unread launch.content) := by
    rw [inHand_checking, Device.outcome_acquire stream, Device.unread_acquire stream,
      Device.samples_next]
  constructor
  case session_eq => exact fed.session_eq
  case printed => exact fed.printed
  case kept => exact fed.kept
  case written => nofun
  case location_eq => rw [Device.location_acquire, fed.location_eq]
  case whole =>
    have whole := fed.whole
    rw [place, ← left] at whole
    rw [← whole]
    simp [inHand]
  case asked =>
    rcases fed.asked with sampling | ⟨-, none⟩
    · exact .inl sampling
    · rw [← left, List.append_eq_nil_iff] at none
      exact .inr none
  case idled => nofun

end Fed

end Daemon

end Magnetometer
