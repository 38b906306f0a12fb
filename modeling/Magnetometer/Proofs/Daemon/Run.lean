import Magnetometer.Proofs.Daemon.Outcome

/-!
# The run of a daemon

The daemon that runs lets its thread read until no whole record is left, serves
the signals in order, and is stopped and released.  Between its signals the thread
waits in a read, since every sleep passes.  So its run is one of the schedules,
and what it leaves behind is known for every file that it is given.
-/

namespace Magnetometer.Daemon

open Lifecycle

variable {launch : Launch} {clock : ManualClock} {state : State}

/-! ## Waiting for the device -/

/-- A daemon that was not stopped and whose thread is in a read. -/
structure Waits (launch : Launch) (clock : ManualClock) (state : State) : Prop where
  reached : ∃ requests, (launch.start clock).Reaches requests state ∧
    ∀ request ∈ requests, IsCarryingOn request
  reading : state.run.isReading = true

theorem started_of_reaches (sound : launch.Sound) {requests : List Request}
    (reaches : (launch.start clock).Reaches requests state)
    (carriesOn : ∀ request ∈ requests, IsCarryingOn request) : Started launch state :=
  reaches.keeps carriesOn (fun _ _ started => started.step sound)
    (fun _ _ started => started.hand) (started_start launch clock)

/-- A thread that is asked to sample, and for which every sleep passes, waits only
in a read. -/
theorem Started.isReading (started : Started launch state)
    (sampling : state.run.system.control.isSampling = true) (waits : state.run.Waits)
    (long : state.run.sleep? none = none) : state.run.isReading = true := by
  cases waits with
  | parked _ asked =>
      rw [Control.isSampling_eq_true_iff, asked] at sampling
      contradiction
  | reading place => exact Run.isReading_eq_true_iff.mpr ⟨_, place⟩
  | asleep place =>
      have slept := Run.sleep?_eq_some_iff.mpr ⟨_, place, (rfl : none.all _ = true), rfl⟩
      rw [long] at slept
      contradiction
  | gone place =>
      rcases started with early | ⟨-, taken, fed⟩
      · exact (early.not_elsewhere place rfl).elim
      · rw [(fed.idled (by rw [place]; rfl)).1] at sampling
        contradiction

/-- A thread that goes on until it has to wait goes on to a read. -/
theorem waits_of_settles (sound : launch.Sound) {requests : List Request}
    (reaches : (launch.start clock).Reaches requests state)
    (carriesOn : ∀ request ∈ requests, IsCarryingOn request)
    (sampling : state.run.system.control.isSampling = true) :
    Waits launch clock ⟨state.run.advance none, state.device⟩ := by
  have settles := Run.settles_advance none state.run
  have further := reaches.trans (State.reaches_advance state)
  rw [List.append_nil] at further
  refine ⟨⟨requests, further, carriesOn⟩, ?_⟩
  have started := started_of_reaches sound further carriesOn
  exact started.isReading (settles.isSampling_eq.trans sampling) settles.waits.1 settles.waits.2

namespace Waits

theorem fed (waits : Waits launch clock state) (sound : launch.Sound) :
    state.run.system.control.isSampling = true ∧
      ∃ taken, Fed launch taken state.run.system state.device := by
  obtain ⟨⟨requests, reaches, carriesOn⟩, reading⟩ := waits
  obtain ⟨started, place⟩ := Run.isReading_eq_true_iff.mp reading
  rcases started_of_reaches sound reaches carriesOn with early | fed
  · exact (early.not_elsewhere place rfl).elim
  · exact fed

/-- A thread in a read has no sample in hand. -/
theorem exhausted (waits : Waits launch clock state)
    (left : state.device.recordsLeft state.run.system.store.files = 0) : state.Exhausted := by
  obtain ⟨started, place⟩ := Run.isReading_eq_true_iff.mp waits.reading
  exact ⟨left, by rw [place]; rfl, by rw [place]; rfl⟩

/-- A read takes one record, as long as there is one, and the thread begins the
next read. -/
theorem read (waits : Waits launch clock state) (sound : launch.Sound) :
    Waits launch clock state.read ∧
      state.read.device.recordsLeft state.read.run.system.store.files =
        state.device.recordsLeft state.run.system.store.files - 1 := by
  obtain ⟨sampling, taken, fed⟩ := waits.fed sound
  obtain ⟨⟨requests, reaches, carriesOn⟩, reading⟩ := waits
  obtain ⟨run, step, read_eq⟩ := State.exists_step_read reading
  have still : run.system.control.isSampling = true :=
    (fed.step sound step).1.trans sampling
  have waitsAgain := waits_of_settles sound (reaches.step step) carriesOn still
  rw [read_eq]
  refine ⟨waitsAgain, ?_⟩
  obtain ⟨-, takenAgain, fedAgain⟩ := waitsAgain.fed sound
  have stream := fed.stream sound
  rw [Device.recordsLeft_eq stream, Device.recordsLeft_eq (fedAgain.stream sound),
    Device.unread_acquire stream, Device.length_next]

theorem readTimes (waits : Waits launch clock state) (sound : launch.Sound) (reads : Nat) :
    Waits launch clock (state.readTimes reads) ∧
      (state.readTimes reads).device.recordsLeft
          (state.readTimes reads).run.system.store.files =
        state.device.recordsLeft state.run.system.store.files - reads := by
  induction reads generalizing state with
  | zero => exact ⟨waits, rfl⟩
  | succ reads ih =>
      obtain ⟨waitsAgain, fewer⟩ := waits.read sound
      obtain ⟨waitsLast, fewest⟩ := ih waitsAgain
      refine ⟨waitsLast, fewest.trans ?_⟩
      rw [fewer, Nat.sub_sub, Nat.add_comm]

/-- The thread reads until no whole record is left. -/
theorem drain (waits : Waits launch clock state) (sound : launch.Sound) :
    Waits launch clock state.drain ∧
      state.drain.device.recordsLeft state.drain.run.system.store.files = 0 := by
  obtain ⟨waitsLast, left⟩ :=
    waits.readTimes sound (state.device.recordsLeft state.run.system.store.files)
  exact ⟨waitsLast, left.trans (Nat.sub_self _)⟩

/-- A write that is asked for breaks off the read, and the thread begins the next
one. -/
theorem flush (waits : Waits launch clock state) (sound : launch.Sound) :
    Waits launch clock (state.ask .flush) := by
  obtain ⟨⟨requests, reaches, carriesOn⟩, reading⟩ := waits
  have handed : Waits launch clock (state.hand .flush) := by
    refine ⟨⟨_, reaches.hand .flush, ?_⟩, reading⟩
    rw [List.forall_mem_append, List.forall_mem_singleton]
    exact ⟨carriesOn, nofun, nofun⟩
  rw [State.ask_of_reading reading]
  exact (handed.read sound).1

/-- A daemon that waits in a read, and is asked to write any number of times and
then to stop, is stopped where no whole record is left. -/
theorem follow (waits : Waits launch clock state) (sound : launch.Sound)
    (left : state.device.recordsLeft state.run.system.store.files = 0) (checkpoints : Nat) :
    ∃ last, Waits launch clock last ∧
      last.device.recordsLeft last.run.system.store.files = 0 ∧
      state.follow (.replicate checkpoints .checkpoint ++ [.stop]) = last.ask .deactivate := by
  induction checkpoints generalizing state with
  | zero => exact ⟨state, waits, left, rfl⟩
  | succ checkpoints ih =>
      obtain ⟨drained, leftNone⟩ := (waits.flush sound).drain sound
      exact ih drained leftNone

end Waits

/-! ## Stopping and releasing -/

/-- A daemon that is stopped while its thread is in a read has left its session. -/
theorem inSession_ask_deactivate (reading : state.run.isReading = true)
    (sampling : state.run.system.control.isSampling = true) :
    (state.ask .deactivate).run.system.sampler.position.inSession = false := by
  obtain ⟨started, place⟩ := Run.isReading_eq_true_iff.mp reading
  have handed : (state.hand .deactivate).run.system.sampler.position = .reading started := place
  rw [State.ask_of_reading reading, State.read]
  dsimp only
  rw [Run.answer_of_reading handed]
  refine (Run.settles_advance none _).outside ?_ rfl
  change (state.run.system.control.submit .deactivate).control.isSampling = false
  rw [Control.isSampling, Control.requested_submit]
  dsimp only
  rw [sampling]
  rfl

/-- A daemon outside every session that is released has a thread that is gone. -/
theorem position_ask_shutdown (outside : state.run.system.sampler.position.inSession = false) :
    (state.ask .shutdown).run.system.sampler.position = .gone := by
  have idle : state.run.isReading = false := by
    rw [← Bool.not_eq_true, Run.isReading_eq_true_iff]
    rintro ⟨started, place⟩
    rw [place] at outside
    contradiction
  have past : (state.hand .shutdown).run.system.sampler.position.pastReads = true := by
    change state.run.system.sampler.position.pastReads = true
    cases place : state.run.system.sampler.position <;> rw [place] at outside <;>
      first | rfl | contradiction
  rw [State.ask_of_idle idle]
  have settles := Run.settles_advance none (state.hand .shutdown).run
  have out := settles.outside rfl past
  cases settles.waits.1 with
  | parked _ asked =>
      rw [settles.requested_eq] at asked
      contradiction
  | reading place | asleep place =>
      rw [place] at out
      contradiction
  | gone place => exact place

/-! ## Runs -/

/-- The settings that a daemon loads. -/
def settings (path? : Option Path) (files : FileSystem) : Except ConfigError Config :=
  match path? with
  | some path => Config.load files path
  | none => Config.loadDefault files

theorem run_of_settings (path? : Option Path) (files : FileSystem) (clock : ManualClock)
    (signals : List Signal) :
    run path? files clock signals =
      match settings path? files with
      | .error error => .failed files (.configuration path? error)
      | .ok config => runWith config files clock signals := rfl

/-- What a daemon needs to start: its settings load, its device opens, and the file
of the fuse bytes has at least three of them. -/
structure Starts (path? : Option Path) (files : FileSystem) (config : Config) (location : Location)
    (sensitivity : Sensitivity) : Prop where
  loaded : settings path? files = .ok config
  opened : files.resolve config.device.dataPath = .ok location
  fused : ∃ more, files.read config.device.sensitivityPath =
    .ok (sensitivity.x :: sensitivity.y :: sensitivity.z :: more)

/-- The daemon that was asked to sample with a delay. -/
def Launch.asked (launch : Launch) (clock : ManualClock) (delay : Nat) : State :=
  ((launch.start clock).hand (.setDelay delay)).hand .activate

/-- The launch of a daemon that starts on a device with a content. -/
def launchOf (files : FileSystem) (config : Config) (location : Location)
    (sensitivity : Sensitivity) (content : Bytes) : Launch where
  sensitivity := sensitivity
  store := ⟨config.calibration.storePath, files⟩
  device := ⟨config.device.dataPath, location, config.device.sensitivityPath, 0⟩
  content := content

variable {path? : Option Path} {files : FileSystem} {config : Config} {location : Location}
  {sensitivity : Sensitivity} {content : Bytes}

/-- The daemon that starts is asked to sample, reads its device and follows its
signals. -/
theorem Starts.run_eq (starts : Starts path? files config location sensitivity)
    (json : config.output.format = .json) (content : Bytes) (clock : ManualClock)
    (signals : List Signal) :
    run path? files clock signals =
      let asked := (launchOf files config location sensitivity content).asked clock
        config.sampling.delay
      ((State.drain ⟨asked.run.advance none, asked.device⟩).follow signals).finish := by
  obtain ⟨more, fused⟩ := starts.fused
  rw [run_of_settings, starts.loaded]
  simp only [runWith, Device.open, starts.opened, Device.sensitivity, fused, json]
  rfl

/-- A daemon that does not start says so, and writes out nothing. -/
theorem run_of_not_starts
    (unable : ¬∃ config location sensitivity, Starts path? files config location sensitivity)
    (clock : ManualClock) (signals : List Signal) :
    (run path? files clock signals).exitCode = 1 ∧
      (run path? files clock signals).output = [] := by
  rw [run_of_settings]
  cases loaded : settings path? files with
  | error error => exact ⟨rfl, rfl⟩
  | ok config =>
      dsimp only
      unfold runWith Device.open
      cases opened : files.resolve config.device.dataPath with
      | error fault => exact ⟨rfl, rfl⟩
      | ok location =>
          unfold Device.sensitivity
          dsimp only
          cases fused : files.read config.device.sensitivityPath with
          | error fault => exact ⟨rfl, rfl⟩
          | ok bytes =>
              match bytes with
              | x :: y :: z :: more =>
                  exact absurd ⟨config, location, ⟨x, y, z⟩, loaded, opened, more, fused⟩ unable
              | [] | [_] | [_, _] => exact ⟨rfl, rfl⟩

/-- The run of a daemon that starts follows a schedule. -/
theorem Starts.exists_schedule (starts : Starts path? files config location sensitivity)
    (json : config.output.format = .json)
    (sound : (launchOf files config location sensitivity content).Sound) (clock : ManualClock)
    (checkpoints : Nat) :
    ∃ requests before after,
      ((launchOf files config location sensitivity content).start clock).Reaches requests before ∧
        (∀ request ∈ requests, IsCarryingOn request) ∧ before.Exhausted ∧
        before.Reaches [.deactivate, .shutdown] after ∧
        after.run.system.sampler.position = .gone ∧
        run path? files clock (.replicate checkpoints .checkpoint ++ [.stop]) = after.outcome := by
  rw [starts.run_eq json content]
  generalize launchOf files config location sensitivity content = launch at sound
  have asked : (launch.start clock).Reaches [.setDelay config.sampling.delay, .activate]
      (launch.asked clock config.sampling.delay) :=
    (State.Reaches.refl.hand (.setDelay config.sampling.delay)).hand .activate
  have carriesOn : ∀ request ∈ [Request.setDelay config.sampling.delay, .activate],
      IsCarryingOn request := by simp [IsCarryingOn]
  have sampling :
      (launch.asked clock config.sampling.delay).run.system.control.isSampling = true := by
    rw [Control.isSampling_eq_true_iff]
    exact Control.requested_submit _ .activate
  obtain ⟨drained, none⟩ := (waits_of_settles sound asked carriesOn sampling).drain sound
  obtain ⟨before, waits, left, follow_eq⟩ := drained.follow sound none checkpoints
  obtain ⟨still, -⟩ := waits.fed sound
  have exhausted := waits.exhausted left
  obtain ⟨⟨requests, reaches, allowed⟩, reading⟩ := waits
  refine ⟨requests, before, (before.ask .deactivate).ask .shutdown, reaches, allowed, exhausted,
    (State.reaches_ask _ _).trans (State.reaches_ask _ _),
    position_ask_shutdown (inSession_ask_deactivate reading still), ?_⟩
  dsimp only
  rw [follow_eq]
  rfl

theorem Starts.sound (starts : Starts path? files config location sensitivity)
    (stream : files.contentAt location = .ok content)
    (keeps : files.Keeps config.calibration.storePath)
    (apart : files.Apart config.calibration.storePath config.device.dataPath) :
    (launchOf files config location sensitivity content).Sound :=
  ⟨starts.opened, stream, rfl, keeps, apart⟩

/-- A daemon that starts, and that can keep a file apart from its device, leaves
behind what the session by itself makes of the samples of the device.  So it does
in its run and on every other schedule, and no schedule keeps it from its end.  A
daemon that does not start writes out nothing. -/
theorem replays_of_run (path? : Option Path) (files : FileSystem) (clock : ManualClock) :
    (∀ config location sensitivity content,
      Starts path? files config location sensitivity → config.output.format = .json →
      files.contentAt location = .ok content → files.Keeps config.calibration.storePath →
      files.Apart config.calibration.storePath config.device.dataPath →
      (∀ checkpoints, Replays (launchOf files config location sensitivity content)
        (run path? files clock (.replicate checkpoints .checkpoint ++ [.stop]))) ∧
      ∀ requests before after,
        ((launchOf files config location sensitivity content).start clock).Reaches
          requests before →
        (∀ request ∈ requests, IsCarryingOn request) → before.Exhausted →
        before.Reaches [.deactivate, .shutdown] after →
        (after.run.system.sampler.position = .gone →
          Replays (launchOf files config location sensitivity content) after.outcome) ∧
        ∃ last, after.Reaches [] last ∧ last.run.system.sampler.position = .gone) ∧
    ((¬∃ config location sensitivity, Starts path? files config location sensitivity) →
      ∀ signals, (run path? files clock signals).exitCode = 1 ∧
        (run path? files clock signals).output = []) := by
  constructor
  · intro config location sensitivity content starts json stream keeps apart
    have sound := starts.sound stream keeps apart
    constructor
    · intro checkpoints
      obtain ⟨requests, before, after, reaches, carriesOn, exhausted, stops, gone, run_eq⟩ :=
        starts.exists_schedule json sound clock checkpoints
      rw [run_eq]
      exact replays_of_reaches sound reaches carriesOn exhausted stops gone
    · intro requests before after reaches carriesOn exhausted stops
      have released : before.Reaches ([.deactivate] ++ [.shutdown]) after := stops
      exact ⟨replays_of_reaches sound reaches carriesOn exhausted stops,
        State.exists_reaches_gone released.requested_eq_shutdown⟩
  · intro unable signals
    exact run_of_not_starts unable clock signals

/-! ## Two stores -/

/-- The settings of a daemon that keeps its offset at a path. -/
def smallConfig (store : String) : Config where
  device := ⟨.ofString "d", .ofString "f"⟩
  calibration := ⟨.ofString store⟩
  output := { format := .json }

/-- A ready record, one that is not ready, and the beginning of a third one. -/
def smallContent : Bytes := [1, 232, 3, 0, 0, 0, 0, 0, 0, 7, 7, 0, 0, 0, 0, 0, 1, 2]

/-- The files of a daemon before anything was kept: its settings, its device and
its fuse bytes. -/
def smallFiles (store : String) : FileSystem where
  entries :=
    [([[109]], .file (Text.Utf8.encode ("device.data_path = \"d\"\n" ++
      "device.sensitivity_path = \"f\"\ncalibration.store_path = \"" ++ store ++ "\"\n" ++
      "output.format = \"json\"\n").toList)),
    ([[100]], .file smallContent), ([[102]], .file [128, 128, 128])]

/-- A daemon that can keep a file leaves it behind, in its run and on a schedule, and
one without settings does not start. -/
theorem replays_of_run_small :
    let launch :=
      launchOf (smallFiles "s") (smallConfig "s") [[100]] ⟨128, 128, 128⟩ smallContent
    Replays launch (run (some (.ofString "m")) (smallFiles "s") ⟨0⟩ [.checkpoint, .stop]) ∧
    (∃ after : State, after.run.system.sampler.position = .gone ∧
      Replays launch after.outcome) ∧
    (run (some (.ofString "n")) (smallFiles "s") ⟨0⟩ [.stop]).exitCode = 1 ∧
      (run (some (.ofString "n")) (smallFiles "s") ⟨0⟩ [.stop]).output = [] := by
  have starts : Starts (some (.ofString "m")) (smallFiles "s") (smallConfig "s") [[100]]
      ⟨128, 128, 128⟩ := ⟨by decide +kernel, by decide +kernel, [], by decide +kernel⟩
  have stream : (smallFiles "s").contentAt [[100]] = .ok smallContent := by decide +kernel
  have written : (smallFiles "s").writeWithDirectories (.ofString "s") [] = (_, .ok ()) :=
    Prod.ext rfl (by decide +kernel)
  have keeps : (smallFiles "s").Keeps (.ofString "s") := .inr ⟨by decide +kernel, _, written⟩
  have apart : (smallFiles "s").Apart (.ofString "s") (.ofString "d") :=
    FileSystem.apart_of_written written (by decide +kernel)
  obtain ⟨runs, schedules⟩ := (replays_of_run (some (.ofString "m")) (smallFiles "s") ⟨0⟩).1
    (smallConfig "s") [[100]] ⟨128, 128, 128⟩ smallContent starts rfl stream keeps apart
  refine ⟨runs 1, ?_, (replays_of_run (some (.ofString "n")) (smallFiles "s") ⟨0⟩).2 ?_ [.stop]⟩
  · obtain ⟨requests, before, after, reaches, carriesOn, exhausted, stops, gone, -⟩ :=
      starts.exists_schedule rfl (starts.sound stream keeps apart) ⟨0⟩ 1
    exact ⟨after, gone,
      (schedules requests before after reaches carriesOn exhausted stops).1 gone⟩
  · rintro ⟨config, location, sensitivity, started⟩
    have unable : (settings (some (.ofString "n")) (smallFiles "s")).toOption = none := by
      decide +kernel
    rw [started.loaded] at unable
    contradiction

/-- Where no file can be made, as at a path that ends in a slash, the daemon runs as
well and leaves no file behind. -/
theorem not_replays_of_slash :
    ¬∀ path? files clock config location sensitivity content,
      Starts path? files config location sensitivity → config.output.format = .json →
      files.contentAt location = .ok content →
      files.read config.calibration.storePath = .error .notFound →
      files.Apart config.calibration.storePath config.device.dataPath →
      files.Apart config.calibration.storePath config.device.sensitivityPath →
      files.resolve config.device.dataPath ≠ files.resolve config.device.sensitivityPath →
      ∀ checkpoints, Replays (launchOf files config location sensitivity content)
        (run path? files clock (.replicate checkpoints .checkpoint ++ [.stop])) := by
  intro always
  have apart : ∀ other, (smallFiles "s/").Apart (.ofString "s/") other := by
    intro other content after written
    obtain ⟨base, place, -, -, accepted⟩ := FileSystem.exists_of_writeWithDirectories written
    have refused :
        ((smallFiles "s/").writeWithDirectories (.ofString "s/") []).2.toOption = none := by
      decide +kernel
    rw [accepted []] at refused
    contradiction
  have replays := always (some (.ofString "m")) (smallFiles "s/") ⟨0⟩ (smallConfig "s/") [[100]]
    ⟨128, 128, 128⟩ smallContent
    ⟨by decide +kernel, by decide +kernel, [], by decide +kernel⟩ rfl (by decide +kernel)
    (by decide +kernel) (apart _) (apart _) (by decide +kernel) 0
  have read : (run (some (.ofString "m")) (smallFiles "s/") ⟨0⟩ [.stop]).files.read
      (.ofString "s/") = .ok _ := replays.read_eq (by decide +kernel)
  have unread : ((run (some (.ofString "m")) (smallFiles "s/") ⟨0⟩ [.stop]).files.read
      (.ofString "s/")).toOption = none := by decide +kernel
  rw [read] at unread
  contradiction

end Magnetometer.Daemon
