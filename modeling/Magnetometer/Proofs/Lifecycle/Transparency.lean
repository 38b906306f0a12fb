import Magnetometer.Proofs.Lifecycle.LockStep
import Magnetometer.Proofs.Lifecycle.Trace
import Magnetometer.Proofs.Lifecycle.Unflushed
import Magnetometer.Proofs.Source.Device

/-!
# Flushes leave no trace

Two benches that are taken through the same steps, one of them without the
flushes.  A flush breaks off a read that is in progress, and that is all of it
that is felt later: where the other bench breaks off the read as well, the two
stay the same but for the numbers of flushes and the writes, and once a session
has ended their stores hold the same.
-/

namespace Magnetometer

namespace Device

/-- Only the file of the device bears on a read. -/
theorem acquire_congr {files other : FileSystem} {device : Device}
    (same : files.contentAt device.location = other.contentAt device.location) :
    device.acquire files = device.acquire other := by
  unfold acquire
  rw [same]

end Device

namespace Lifecycle

open AnyStore (content Descends)

/-- The driver without its numbers of flushes. -/
def Driver.unflushed (driver : Driver) : Driver :=
  { driver with control := driver.control.unflushed }

namespace Bench

/-! ## Runs without flushes -/

/-- Writes publish nothing. -/
theorem published_withoutWrites (done : List Action) :
    published (withoutWrites done) = published done := by
  induction done with
  | nil => rfl
  | cons action rest ih =>
      cases action with
      | emit event => exact congrArg (event :: ·) ih
      | _ => exact ih

/-- A read in progress comes to nothing, and the thread goes on. -/
def breakOff (bench : Bench) : Bench :=
  if bench.isReading then (bench.answer .notReady).settle else bench

/-- Take a step without its flush: of the flush nothing is left but that a read in
progress is broken off. -/
def stepUnflushed (bench : Bench) : Step → Bench
  | .flush => bench.breakOff
  | other => bench.step other

/-! ## The files of a device -/

/-- The files of a bench with a store and with files beside it. -/
def filesOf (store : AnyStore) (files : FileSystem) : FileSystem :=
  match store with
  | .file store => store.files
  | _ => files

theorem allFiles_eq (bench : Bench) : bench.allFiles = filesOf bench.store bench.files := rfl

/-- No save changes the file at a location. -/
def Untouched (origin : AnyStore) (files : FileSystem) (location : Location) : Prop :=
  ∀ offset, (filesOf (CalibrationStore.save origin offset).store files).contentAt location =
    (filesOf origin files).contentAt location

theorem Untouched.contentAt_eq {origin store : AnyStore} {files : FileSystem}
    {location : Location} (untouched : Untouched origin files location)
    (descends : Descends origin store) :
    (filesOf store files).contentAt location = (filesOf origin files).contentAt location := by
  cases descends with
  | memory => rfl
  | same => rfl
  | saved origin offset => exact untouched offset

/-! ## Two benches -/

/-- The drivers of two benches, of which one was not asked for flushes. -/
inductive DriversBeside (origin : AnyStore) (bench other : Bench) : Prop
  | absent (gone : bench.driver? = none) (goneToo : other.driver? = none)
      (descends : Descends origin bench.store) (descendsToo : Descends origin other.store)
      (content_eq : content bench.store = content other.store)
  | present {driver driverToo : Driver} (here : bench.driver? = some driver)
      (hereToo : other.driver? = some driverToo)
      (sensitivity_eq : driverToo.sensitivity = driver.sensitivity)
      (beside : Run.Beside (Descends origin) content (bench.run driver) (other.run driverToo))

/-- Drivers, stores and the times of their clocks are all that matters. -/
theorem DriversBeside.of_eq {origin : AnyStore} {bench other next nextToo : Bench}
    (drivers : DriversBeside origin bench other) (driver_eq : next.driver? = bench.driver?)
    (driverToo_eq : nextToo.driver? = other.driver?) (store_eq : next.store = bench.store)
    (storeToo_eq : nextToo.store = other.store) (clock_eq : nextToo.clock = next.clock)
    (instant_eq : nextToo.instant = next.instant) : DriversBeside origin next nextToo := by
  cases drivers with
  | absent gone goneToo descends descendsToo content_eq =>
      rw [← store_eq] at descends content_eq
      rw [← storeToo_eq] at descendsToo content_eq
      exact .absent (driver_eq.trans gone) (driverToo_eq.trans goneToo) descends descendsToo
        content_eq
  | @present driver driverToo here hereToo sensitivity_eq runs =>
      refine .present (driver_eq.trans here) (driverToo_eq.trans hereToo) sensitivity_eq ?_
      obtain ⟨apart, system_eq, -, -, actions_eq⟩ := runs
      unfold Bench.run Run.ofSystem at apart system_eq ⊢
      rw [← store_eq, ← storeToo_eq] at apart
      rw [← store_eq, ← storeToo_eq] at system_eq
      exact ⟨apart, system_eq, clock_eq, instant_eq, actions_eq⟩

/-- Two benches of which one was not asked for flushes. -/
structure Beside (origin : AnyStore) (files : FileSystem) (bench other : Bench) : Prop where
  drivers : DriversBeside origin bench other
  files_eq : bench.files = files
  filesToo : other.files = files
  device_eq : other.device? = bench.device?
  untouched : ∀ device, bench.device? = some device → Untouched origin files device.location
  queue_eq : other.queue = bench.queue
  clock_eq : other.clock = bench.clock
  instant_eq : other.instant = bench.instant
  actions_eq : withoutWrites other.actions = withoutWrites bench.actions

namespace Beside

variable {origin : AnyStore} {files : FileSystem} {bench other : Bench}

theorem descends (beside : Beside origin files bench other) :
    Descends origin bench.store ∧ Descends origin other.store := by
  cases beside.drivers with
  | absent _ _ descends descendsToo => exact ⟨descends, descendsToo⟩
  | present _ _ _ runs => exact ⟨runs.apart.good, runs.apart.goodToo⟩

/-- The runs of the two drivers go on together. -/
theorem update {f g : Run AnyStore AnySink → Run AnyStore AnySink}
    (beside : Beside origin files bench other)
    (follows : ∀ driver driverToo, bench.driver? = some driver → other.driver? = some driverToo →
      Run.Beside (Descends origin) content (bench.run driver) (other.run driverToo) →
      Run.Beside (Descends origin) content (f (bench.run driver)) (g (other.run driverToo))) :
    Beside origin files (bench.update f) (other.update g) := by
  cases beside.drivers with
  | absent gone goneToo =>
      unfold Bench.update
      rw [gone, goneToo]
      exact beside
  | present here hereToo sensitivity_eq runs =>
      rw [update_eq here, update_eq hereToo]
      have next := follows _ _ here hereToo runs
      constructor
      case drivers =>
        exact .present rfl rfl sensitivity_eq
          ⟨next.apart, next.system_eq, next.clock_eq, next.instant_eq, rfl⟩
      case files_eq => exact beside.files_eq
      case filesToo => exact beside.filesToo
      case device_eq => exact beside.device_eq
      case untouched => exact beside.untouched
      case queue_eq => exact beside.queue_eq
      case clock_eq => exact next.clock_eq
      case instant_eq => exact next.instant_eq
      case actions_eq =>
        change withoutWrites (other.actions ++ _) = withoutWrites (bench.actions ++ _)
        rw [withoutWrites_append, withoutWrites_append, beside.actions_eq, next.actions_eq]

theorem setQueue (beside : Beside origin files bench other) (reads : List QueuedRead) :
    Beside origin files { bench with queue := reads } { other with queue := reads } :=
  { beside with
    drivers := beside.drivers.of_eq rfl rfl rfl rfl beside.clock_eq beside.instant_eq
    queue_eq := rfl }

theorem setClock (beside : Beside origin files bench other) (clock : ManualClock) :
    Beside origin files { bench with clock := clock } { other with clock := clock } :=
  { beside with
    drivers := beside.drivers.of_eq rfl rfl rfl rfl rfl beside.instant_eq
    clock_eq := rfl }

theorem setDevice (beside : Beside origin files bench other) {device : Device}
    (untouched : Untouched origin files device.location) :
    Beside origin files { bench with device? := some device }
      { other with device? := some device } :=
  { beside with
    drivers := beside.drivers.of_eq rfl rfl rfl rfl beside.clock_eq beside.instant_eq
    device_eq := rfl
    untouched := by
      intro next there
      cases there
      exact untouched }

/-- Both benches make the same read. -/
theorem read (beside : Beside origin files bench other) (queued : QueuedRead) :
    Beside origin files (bench.read queued).1 (other.read queued).1 ∧
      (other.read queued).2 = (bench.read queued).2 := by
  have passed := beside.setClock (queued.passing.apply bench.clock)
  cases given : queued.outcome with
  | outcome outcome =>
      rw [read_of_outcome given, read_of_outcome given, beside.clock_eq]
      exact ⟨passed, rfl⟩
  | device =>
      cases opened : bench.device? with
      | none =>
          rw [read_of_none given opened, read_of_none given (beside.device_eq.trans opened),
            beside.clock_eq]
          exact ⟨passed, rfl⟩
      | some device =>
          have untouched := beside.untouched device opened
          have same : bench.allFiles.contentAt device.location =
              other.allFiles.contentAt device.location := by
            rw [allFiles_eq, allFiles_eq, beside.files_eq, beside.filesToo,
              untouched.contentAt_eq beside.descends.1, untouched.contentAt_eq beside.descends.2]
          rw [read_of_device given opened, read_of_device given (beside.device_eq.trans opened),
            beside.clock_eq, ← Device.acquire_congr same]
          refine ⟨passed.setDevice ?_, rfl⟩
          rw [Device.location_acquire]
          exact untouched

theorem isReading_eq (beside : Beside origin files bench other) :
    other.isReading = bench.isReading := by
  unfold Bench.isReading
  cases beside.drivers with
  | absent gone goneToo => rw [gone, goneToo]
  | present here hereToo _ runs =>
      rw [here, hereToo]
      exact runs.isReading_eq

/-- The read in progress comes to the same on both benches. -/
theorem answer (beside : Beside origin files bench other) (accepts : origin.Accepts)
    (reading : bench.isReading = true) (queued : QueuedRead) :
    Beside origin files (bench.answer queued) (other.answer queued) := by
  obtain ⟨besideRead, outcome_eq⟩ := beside.read queued
  have still := every_read (every_isReading reading) queued fun _ _ reads => reads
  unfold Bench.answer
  dsimp only
  rw [outcome_eq]
  refine besideRead.update fun driver driverToo here _ runs => ?_
  obtain ⟨started, place⟩ := Run.isReading_eq_true_iff.mp (still driver here)
  exact runs.answer (AnyStore.overwriting accepts) _ place _

theorem feedAll {reads : List QueuedRead} (beside : Beside origin files bench other)
    (accepts : origin.Accepts) :
    Beside origin files (Bench.feedAll reads bench) (Bench.feedAll reads other) := by
  induction reads generalizing bench other with
  | nil => exact beside.setQueue []
  | cons queued rest ih =>
      unfold Bench.feedAll
      rw [beside.isReading_eq]
      cases reading : bench.isReading with
      | true => exact ih (beside.answer accepts reading queued)
      | false => exact beside.setQueue _

theorem settle (beside : Beside origin files bench other) (accepts : origin.Accepts) :
    Beside origin files bench.settle other.settle := by
  have advanced : Beside origin files bench.advance other.advance :=
    beside.update fun _ _ _ _ runs => runs.advance (AnyStore.overwriting accepts) _
  unfold Bench.settle
  dsimp only
  rw [advanced.queue_eq]
  exact advanced.feedAll accepts

theorem feed (beside : Beside origin files bench other) (accepts : origin.Accepts)
    (reads : List QueuedRead) : Beside origin files (bench.feed reads) (other.feed reads) := by
  unfold Bench.feed
  rw [beside.queue_eq]
  exact (beside.setQueue _).settle accepts

/-- Every request but a flush is made on both benches. -/
theorem request (beside : Beside origin files bench other) (accepts : origin.Accepts)
    (request : Request) (unlike : request ≠ .flush) (late : QueuedRead) :
    Beside origin files (bench.request request late).1 (other.request request late).1 := by
  cases beside.drivers with
  | absent gone goneToo =>
      rw [request_of_none gone, request_of_none goneToo]
      exact beside
  | @present driver driverToo here hereToo _ runs =>
      have handed : Beside origin files (bench.update fun run => run.request request)
          (other.update fun run => run.request request) :=
        beside.update fun _ _ _ _ runs => runs.request unlike
      rw [update_eq here, update_eq hereToo] at handed
      have waits_eq : (driverToo.control.submit request).wait?.isSome =
          (driver.control.submit request).wait?.isSome := by
        rw [show driverToo.control = driver.control.unflushed from runs.control_eq]
        exact driver.control.isSome_wait?_unflushed request
      rw [request_eq here, request_eq hereToo]
      refine settle ?_ accepts
      unfold asked
      dsimp only
      rw [handed.isReading_eq, waits_eq]
      split
      · rename_i answered
        rw [Bool.and_eq_true] at answered
        exact handed.answer accepts answered.2 late
      · exact handed

theorem rests (beside : Beside origin files bench other) (rests : bench.Rests) : other.Rests := by
  intro driverToo thereToo
  cases beside.drivers with
  | absent _ goneToo =>
      rw [goneToo] at thereToo
      contradiction
  | @present driver _ here hereToo _ runs =>
      cases Option.some.inj (hereToo.symm.trans thereToo)
      have rest := rests driver here
      obtain ⟨waits, position_eq⟩ := runs.waits rest.waits
      refine ⟨waits, ?_, ?_⟩
      · rw [position_eq, runs.instant_eq]
        exact rest.long
      · rw [position_eq, runs.control_eq]
        exact rest.outside

/-- A flush on the one bench breaks off a read on the other one, and nothing more. -/
theorem flush (beside : Beside origin files bench other) (accepts : origin.Accepts)
    (rests : bench.Rests) :
    Beside origin files (bench.request .flush .notReady).1 other.breakOff := by
  unfold breakOff
  rw [beside.isReading_eq]
  cases beside.drivers with
  | absent gone goneToo =>
      have idle : bench.isReading = false := by
        unfold Bench.isReading
        rw [gone]
      rw [request_of_none gone, idle, if_neg Bool.false_ne_true]
      exact beside
  | @present driver driverToo here hereToo _ runs =>
      have handed : Beside origin files (bench.update fun run => run.request .flush)
          (other.update fun run => run) :=
        beside.update fun _ _ _ _ runs => runs.flush
      rw [update_eq here, update_id] at handed
      rw [request_eq here]
      unfold asked
      dsimp only
      rw [← handed.isReading_eq, beside.isReading_eq]
      cases reading : bench.isReading with
      -- The caller has to wait, and breaks the read off on the one bench too.
      | true =>
          have asks : driver.control.isSampling = true :=
            (rests driver here).isSampling (every_isReading reading driver here)
          have waits : (driver.control.submit .flush).wait?.isSome = true := by
            rw [Control.submit, if_pos asks]
            rfl
          rw [waits, Bool.and_true, if_pos rfl, if_pos rfl]
          refine (handed.answer accepts ?_ .notReady).settle accepts
          rw [← handed.isReading_eq, beside.isReading_eq, reading]
      -- The flush is served in a sleep, or not at all, while the other thread waits.
      | false =>
          rw [Bool.and_false, if_neg Bool.false_ne_true, if_neg Bool.false_ne_true]
          have restsToo := beside.rests rests
          have advanced : Beside origin files (bench.putBack driver
              ((bench.run driver).request .flush)).advance (other.update fun run => run) :=
            handed.update fun _ driverToo _ hereToo runs =>
              runs.advance_left (AnyStore.overwriting accepts) (restsToo driverToo hereToo).waits
                (Run.sleep?_eq_none_iff.mpr (restsToo driverToo hereToo).long)
          rw [update_id] at advanced
          unfold Bench.settle
          dsimp only
          rw [feedAll_queue]
          · exact advanced
          · rw [← advanced.isReading_eq, beside.isReading_eq, reading]

/-- The stores hold the same as soon as no session is left that will write. -/
theorem content_eq (beside : Beside origin files bench other) (rests : bench.Rests)
    (stopped : bench.Every Stopped) : content bench.store = content other.store := by
  cases beside.drivers with
  | absent _ _ _ _ content_eq => exact content_eq
  | @present driver _ here _ _ runs =>
      apply runs.apart.content_eq
      have outside := (rests driver here).outside (stopped driver here)
      cases place : (bench.run driver).system.sampler.position <;> rw [place] at outside <;>
        first | rfl | contradiction

/-- The drivers are taken off both benches. -/
theorem release (beside : Beside origin files bench other) (accepts : origin.Accepts)
    (rests : bench.Rests) : Beside origin files bench.release other.release := by
  have requested := beside.request accepts .shutdown nofun .notReady
  have same := requested.content_eq (rests_request rests _ _)
    (stopped_request (fun _ => rfl) .notReady)
  exact ⟨.absent rfl rfl requested.descends.1 requested.descends.2 same, requested.files_eq,
    requested.filesToo, requested.device_eq, requested.untouched, requested.queue_eq,
    requested.clock_eq, requested.instant_eq, requested.actions_eq⟩

/-- New drivers are put on both benches. -/
theorem start (beside : Beside origin files bench other) (accepts : origin.Accepts)
    (rests : bench.Rests) (sensitivity : Except SensorError Sensitivity) (sink : AnySink) :
    Beside origin files (bench.start sensitivity sink).1 (other.start sensitivity sink).1 := by
  have released := beside.release accepts rests
  unfold Bench.start
  cases sensitivity with
  | error error => exact released
  | ok sensitivity =>
      have same := released.content_eq bench.rests_release (every_of_none rfl)
      constructor
      case drivers =>
        exact .present rfl rfl rfl
          ⟨⟨released.descends.1, released.descends.2, .inl same, Session.ordered_new sensitivity⟩,
            rfl, released.clock_eq, released.instant_eq, rfl⟩
      case files_eq => exact released.files_eq
      case filesToo => exact released.filesToo
      case device_eq => exact released.device_eq
      case untouched => exact released.untouched
      case queue_eq => exact released.queue_eq
      case clock_eq => exact released.clock_eq
      case instant_eq => exact released.instant_eq
      case actions_eq => exact released.actions_eq

/-- Someone else saves an offset into both stores. -/
theorem save (beside : Beside origin files bench other) (accepts : origin.Accepts)
    (offset : HardIronOffset) :
    Beside origin files (bench.save offset).1 (other.save offset).1 := by
  have laws := AnyStore.overwriting accepts
  refine ⟨?_, beside.files_eq, beside.filesToo, beside.device_eq, beside.untouched,
    beside.queue_eq, beside.clock_eq, beside.instant_eq, beside.actions_eq⟩
  cases beside.drivers with
  | absent gone goneToo descends descendsToo =>
      exact .absent gone goneToo (laws.good_save descends offset)
        (laws.good_save descendsToo offset) (laws.content_save descends descendsToo offset)
  | present here hereToo sensitivity_eq runs =>
      refine .present here hereToo sensitivity_eq
        ⟨runs.apart.save laws offset, ?_, runs.clock_eq, runs.instant_eq, rfl⟩
      exact congrArg (fun system : System AnyStore AnySink =>
        { system with store := (CalibrationStore.save other.store offset).store }) runs.system_eq

theorem changeSink (beside : Beside origin files bench other) (change : AnySink → AnySink) :
    Beside origin files (bench.changeSink change) (other.changeSink change) := by
  refine beside.update fun driver driverToo _ _ runs => ?_
  refine ⟨⟨runs.apart.good, runs.apart.goodToo, runs.apart.contents, runs.apart.ordered⟩, ?_,
    runs.clock_eq, runs.instant_eq, runs.actions_eq⟩
  exact congrArg (fun system : System AnyStore AnySink =>
    { system with sampler.sink := change system.sampler.sink }) runs.system_eq

/-- Every step is taken on both benches, the flushes on one of them only. -/
theorem step (beside : Beside origin files bench other) (accepts : origin.Accepts)
    (rests : bench.Rests) (step : Step) :
    Beside origin files (bench.step step) (other.stepUnflushed step) := by
  cases step with
  | start sensitivity sink => exact beside.start accepts rests sensitivity sink
  | activate => exact beside.request accepts .activate nofun _
  | deactivate late => exact beside.request accepts .deactivate nofun late
  | flush => exact beside.flush accepts rests
  | setDelay microseconds => exact beside.request accepts (.setDelay microseconds) nofun _
  | deinit => exact beside.release accepts rests
  | feed reads => exact beside.feed accepts reads
  | advance nanoseconds =>
      change Beside origin files { bench with clock := bench.clock.advance nanoseconds }
        { other with clock := other.clock.advance nanoseconds }
      rw [beside.clock_eq]
      exact beside.setClock _
  | setClock time => exact beside.setClock ⟨time⟩
  | save offset => exact beside.save accepts offset
  | receive change => exact beside.changeSink change

theorem steps (beside : Beside origin files bench other) (accepts : origin.Accepts)
    (rests : bench.Rests) (steps : List Step) :
    Beside origin files (steps.foldl Bench.step bench) (steps.foldl stepUnflushed other) ∧
      (steps.foldl Bench.step bench).Rests := by
  induction steps generalizing bench other with
  | nil => exact ⟨beside, rests⟩
  | cons first rest ih => exact ih (beside.step accepts rests first) (rests_step rests first)

/-- The drivers are the same but for their numbers of flushes. -/
theorem driver_eq (beside : Beside origin files bench other) (rests : bench.Rests) :
    other.driver? = bench.driver?.map Driver.unflushed := by
  cases beside.drivers with
  | absent gone goneToo =>
      rw [gone, goneToo]
      rfl
  | @present driver driverToo here hereToo sensitivity_eq runs =>
      rw [here, hereToo, Option.map_some]
      have control_eq : driverToo.control = driver.control.unflushed := runs.control_eq
      have sampler_eq : driverToo.sampler = driver.sampler.unflushed :=
        congrArg System.sampler runs.system_eq
      have place_eq : driver.sampler.position.unflushed = driver.sampler.position :=
        runs.position_eq.symm.trans (runs.waits (rests driver here).waits).2
      rw [Sampler.unflushed, place_eq] at sampler_eq
      obtain ⟨control, sampler, sensitivity⟩ := driverToo
      cases control_eq
      cases sampler_eq
      cases sensitivity_eq
      rfl

end Beside

/-! ## Whole runs -/

/-- A bench on which nothing has been done yet. -/
def fresh (store : AnyStore) (files : FileSystem) (device? : Option Device)
    (clock : ManualClock) : Bench :=
  { new store files clock with device? := device? }

section Fresh

variable {store : AnyStore} {files : FileSystem} {device? : Option Device} (clock : ManualClock)

theorem rests_fresh : (fresh store files device? clock).Rests := every_of_none rfl

theorem beside_fresh (accepts : store.Accepts)
    (untouched : ∀ device, device? = some device → Untouched store files device.location) :
    Beside store files (fresh store files device? clock) (fresh store files device? clock) where
  drivers := .absent rfl rfl (.refl accepts) (.refl accepts) rfl
  files_eq := rfl
  filesToo := rfl
  device_eq := rfl
  untouched := untouched
  queue_eq := rfl
  clock_eq := rfl
  instant_eq := rfl
  actions_eq := rfl

end Fresh

/-- What a bench has in common with one on which nobody asked for flushes. -/
structure Unaffected (bench other : Bench) : Prop where
  /-- The same events were emitted, with the same times. -/
  published_eq : published other.actions = published bench.actions
  /-- Every load, every read and every sample is there, in the same order. -/
  actions_eq : withoutWrites other.actions = withoutWrites bench.actions
  /-- State, delay, session and sink of the driver are the same. -/
  driver_eq : other.driver? = bench.driver?.map Driver.unflushed
  /-- The same reads are left. -/
  queue_eq : other.queue = bench.queue
  device_eq : other.device? = bench.device?
  clock_eq : other.clock = bench.clock

theorem Beside.unaffected {origin : AnyStore} {files : FileSystem} {bench other : Bench}
    (beside : Beside origin files bench other) (rests : bench.Rests) :
    Unaffected bench other where
  published_eq := by
    rw [← published_withoutWrites, beside.actions_eq, published_withoutWrites]
  actions_eq := beside.actions_eq
  driver_eq := beside.driver_eq rests
  queue_eq := beside.queue_eq
  device_eq := beside.device_eq
  clock_eq := beside.clock_eq

/-- The steps that are no flushes. -/
def withoutFlushes (steps : List Step) : List Step := steps.filter fun step => !step.isFlush

/-- No flush is asked for while the thread is in a read. -/
def FlushesIdle : Bench → List Step → Prop
  | _, [] => True
  | bench, first :: rest =>
      (first.isFlush = true → bench.isReading = false) ∧ FlushesIdle (bench.step first) rest

theorem stepUnflushed_of_not_isFlush {step : Step} (other : step.isFlush = false) (bench : Bench) :
    bench.stepUnflushed step = bench.step step := by
  cases step with
  | flush => contradiction
  | _ => rfl

/-- Where no flush meets a read, a run without its flushes is a run of the steps
that are left. -/
theorem Beside.foldl_withoutFlushes {origin : AnyStore} {files : FileSystem} {bench other : Bench}
    {steps : List Step} (beside : Beside origin files bench other) (accepts : origin.Accepts)
    (rests : bench.Rests) (idle : FlushesIdle bench steps) :
    steps.foldl stepUnflushed other = (withoutFlushes steps).foldl Bench.step other := by
  induction steps generalizing bench other with
  | nil => rfl
  | cons first rest ih =>
      obtain ⟨idleNow, idleRest⟩ := idle
      have onward := ih (beside.step accepts rests first) (rests_step rests first) idleRest
      rw [List.foldl_cons, onward]
      unfold withoutFlushes
      cases flushes : first.isFlush with
      | false =>
          rw [List.filter_cons_of_pos (by rw [flushes]; rfl), List.foldl_cons,
            stepUnflushed_of_not_isFlush flushes]
      | true =>
          rw [List.filter_cons_of_neg (by rw [flushes]; exact nofun)]
          have asked : first = .flush := by
            cases first with
            | flush => rfl
            | _ => contradiction
          subst asked
          have reads : other.isReading = false :=
            beside.isReading_eq.trans (idleNow flushes)
          rw [show other.stepUnflushed .flush = other from
            if_neg (by rw [reads]; exact Bool.false_ne_true)]

/-- Flushes leave no trace.  In any run on a store whose saves succeed and leave
the device file alone, without the flushes but with the reads that they break off
everything comes to the same, up to the writes, and after every deactivation and
every end of a driver the store has the same in it.  Where no flush meets a read,
these are the runs in which the flushes are left out. -/
theorem unaffected_of_steps (store : AnyStore) (files : FileSystem) (device? : Option Device)
    (clock : ManualClock) (accepts : store.Accepts)
    (untouched : ∀ device, device? = some device → Untouched store files device.location)
    (steps : List Step) :
    Unaffected (steps.foldl Bench.step (fresh store files device? clock))
        (steps.foldl stepUnflushed (fresh store files device? clock)) ∧
      (∀ before last, steps = before ++ [last] → last.stops = true →
        content (steps.foldl Bench.step (fresh store files device? clock)).store =
          content (steps.foldl stepUnflushed (fresh store files device? clock)).store) ∧
      (FlushesIdle (fresh store files device? clock) steps →
        steps.foldl stepUnflushed (fresh store files device? clock) =
          (withoutFlushes steps).foldl Bench.step (fresh store files device? clock)) := by
  have start := beside_fresh clock accepts untouched
  obtain ⟨beside, rests⟩ := start.steps accepts (rests_fresh clock) steps
  refine ⟨beside.unaffected rests, ?_, start.foldl_withoutFlushes accepts (rests_fresh clock)⟩
  rintro before last rfl stops
  refine beside.content_eq rests ?_
  rw [List.foldl_append, List.foldl_cons, List.foldl_nil]
  exact stopped_step _ stops

/-- A sample to read. -/
def given (x y z : Int16) : QueuedRead := ⟨.outcome (.ok ⟨x, y, z⟩), .nothing⟩

/-- A session with a flush during its long sleep. -/
def flushAsleep : List Step :=
  [.start (.ok .neutral) (.list []), .activate, .setDelay 2000000, .feed [given 1 2 3], .flush,
    .deactivate .notReady]

/-- A session with a flush while its thread is in a read, and a sample after it. -/
def flushInRead : List Step :=
  [.start (.ok .neutral) (.list []), .activate, .setDelay 2000000, .flush, .feed [given 1 2 3]]

/-- A session with a flush between two reads, the second one from the device. -/
def flushBeforeDevice : List Step :=
  [.start (.ok .neutral) (.list []), .activate, .feed [given 1 2 3], .flush,
    .feed [⟨.device, .nothing⟩]]

/-- A bench with a store in memory. -/
def inMemory : Bench := fresh (.memory (.ofStored .empty)) .empty none ⟨0⟩

/-- A bench whose device file, empty so far, is the file of the store. -/
def ontoDevice : Bench :=
  fresh (.file ⟨⟨[100]⟩, ⟨[([[100]], .file [])]⟩⟩) .empty (some ⟨⟨[100]⟩, [[100]], ⟨[97]⟩, 0⟩) ⟨0⟩

/-- The session with a flush during its sleep next to the one without it: each
publishes the sample, and leaves the same in the store. -/
theorem unaffected_of_steps_flushAsleep :
    (published (flushAsleep.foldl Bench.step inMemory).actions).length = 1 ∧
      Unaffected (flushAsleep.foldl Bench.step inMemory)
        ((withoutFlushes flushAsleep).foldl Bench.step inMemory) ∧
      content (flushAsleep.foldl Bench.step inMemory).store =
        content ((withoutFlushes flushAsleep).foldl Bench.step inMemory).store := by
  obtain ⟨unaffected, same, left⟩ :=
    unaffected_of_steps (.memory (.ofStored .empty)) .empty none ⟨0⟩ (fun _ => rfl) nofun
      flushAsleep
  have idle : FlushesIdle inMemory flushAsleep :=
    ⟨nofun, nofun, nofun, nofun, fun _ => rfl, nofun, trivial⟩
  have stopped := same (flushAsleep.take 5) (.deactivate .notReady) rfl rfl
  have without := left idle
  rw [without] at unaffected stopped
  exact ⟨rfl, unaffected, stopped⟩

/-- A flush that breaks off a read cannot be left out: the session without it is
still in the read when the sample comes, and the other one asleep.  Nor do the
broken off reads make up for the flushes when the store is the device. -/
theorem not_unaffected_of_withoutFlushes :
    (¬∀ steps : List Step, Unaffected (steps.foldl Bench.step inMemory)
        ((withoutFlushes steps).foldl Bench.step inMemory)) ∧
      ontoDevice.store.Accepts ∧
      ¬∀ steps : List Step, Unaffected (steps.foldl Bench.step ontoDevice)
        (steps.foldl stepUnflushed ontoDevice) := by
  refine ⟨?_, fun _ => rfl, ?_⟩
  · intro unaffected
    have lengths := congrArg List.length (unaffected flushInRead).published_eq
    exact absurd lengths (by decide)
  · intro unaffected
    exact absurd (unaffected flushBeforeDevice).device_eq (by decide +kernel)

end Bench

end Lifecycle

end Magnetometer
