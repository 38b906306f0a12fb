import Magnetometer.Lifecycle.Bench
import Magnetometer.Proofs.Lifecycle.Rest

/-!
# Steps of a bench

The steps that a bench is taken through, and where its driver is after each of
them: its thread waits for a request, for a read or for the end of a long sleep,
and it is outside every session unless sampling is asked for.
-/

namespace Magnetometer.Lifecycle

namespace Bench

/-! ## Steps -/

/-- A step of a run in lock step. -/
inductive Step where
  /-- A new driver takes the place of the old one. -/
  | start (sensitivity : Except SensorError Sensitivity) (sink : AnySink)
  | activate
  /-- What a blocked read comes to is given. -/
  | deactivate (late : QueuedRead)
  | flush
  | setDelay (microseconds : Int)
  | deinit
  | feed (reads : List QueuedRead)
  /-- The clock of events goes forward. -/
  | advance (nanoseconds : Nat)
  | setClock (time : UInt64)
  /-- Someone else saves an offset. -/
  | save (offset : HardIronOffset)
  /-- Someone at the other end of the sink takes events out of it, or goes away. -/
  | receive (change : AnySink → AnySink)

/-- Whether the driver is told to stop in a step. -/
def Step.stops : Step → Bool
  | deactivate _ | deinit => true
  | _ => false

/-- Whether the driver is asked for a write in a step. -/
def Step.isFlush : Step → Bool
  | flush => true
  | _ => false

/-- Change the sink of the driver. -/
def changeSink (bench : Bench) (change : AnySink → AnySink) : Bench :=
  bench.update fun run =>
    { run with system.sampler.sink := change run.system.sampler.sink }

/-- Take a step. -/
def step (bench : Bench) : Step → Bench
  | .start sensitivity sink => (bench.start sensitivity sink).1
  | .activate => (bench.request .activate .notReady).1
  | .deactivate late => (bench.request .deactivate late).1
  | .flush => (bench.request .flush .notReady).1
  | .setDelay microseconds => (bench.request (.setDelay microseconds) .notReady).1
  | .deinit => bench.release
  | .feed reads => bench.feed reads
  | .advance nanoseconds => { bench with clock := bench.clock.advance nanoseconds }
  | .setClock time => { bench with clock := bench.clock.set time }
  | .save offset => (bench.save offset).1
  | .receive change => bench.changeSink change

/-! ## What holds of the driver on a bench -/

/-- What holds of the driver on a bench at work, if there is one. -/
def Every (P : Run AnyStore AnySink → Prop) (bench : Bench) : Prop :=
  ∀ driver, bench.driver? = some driver → P (bench.run driver)

variable {bench : Bench} {P Q : Run AnyStore AnySink → Prop}

theorem Every.update {f : Run AnyStore AnySink → Run AnyStore AnySink} (every : bench.Every P)
    (keeps : ∀ run, P run → Q (.ofSystem (f run).system (f run).clock (f run).instant)) :
    (bench.update f).Every Q := by
  intro driver there
  unfold Bench.update at there ⊢
  split at there
  · rename_i none
    rw [none] at there
    contradiction
  · rename_i before some
    cases there
    exact keeps _ (every before some)

theorem every_of_none (gone : bench.driver? = none) : bench.Every P := by
  intro driver there
  rw [gone] at there
  contradiction

theorem isReading_eq_true_iff :
    bench.isReading = true ↔
      ∃ driver, bench.driver? = some driver ∧ (bench.run driver).isReading = true := by
  unfold isReading
  cases bench.driver? with
  | none => simp
  | some driver => simp

/-- A run that waits, out of every session unless sampling is asked for. -/
structure AtRest (run : Run AnyStore AnySink) : Prop where
  waits : run.Waits
  long : ∀ deadline, run.system.sampler.position = .asleep deadline →
    patience < deadline - run.instant
  outside : run.system.control.isSampling = false →
    run.system.sampler.position.inSession = false

/-- A run that comes to rest out of every session unless sampling is asked for. -/
def PastReads (run : Run AnyStore AnySink) : Prop :=
  run.system.control.isSampling = false → run.system.sampler.position.pastReads = true

/-- A run in which sampling is not asked for. -/
def Stopped (run : Run AnyStore AnySink) : Prop := run.system.control.isSampling = false

namespace AtRest

variable {run : Run AnyStore AnySink}

theorem pastReads (rest : AtRest run) : PastReads run := by
  intro stopped
  have outside := rest.outside stopped
  cases place : run.system.sampler.position <;> rw [place] at outside <;>
    first | rfl | contradiction

/-- The thread is in a read only if sampling is asked for. -/
theorem isSampling (rest : AtRest run) (reading : run.isReading = true) :
    run.system.control.isSampling = true := by
  obtain ⟨started, place⟩ := Run.isReading_eq_true_iff.mp reading
  cases asked : run.system.control.isSampling with
  | true => rfl
  | false =>
      have outside := rest.outside asked
      rw [place] at outside
      contradiction

theorem advance (past : PastReads run) : AtRest (run.advance (some patience)) := by
  have settles := Run.settles_advance (some patience) run
  refine ⟨settles.waits.1, Run.sleep?_eq_none_iff.mp settles.waits.2, fun stopped => ?_⟩
  rw [settles.isSampling_eq] at stopped
  exact settles.outside stopped (past stopped)

/-- Once the read that a thread was in is over, it makes none that it should not. -/
theorem answer (reading : run.isReading = true) (outcome : Except SensorError Sample) :
    AtRest (run.answer (some patience) outcome) := by
  obtain ⟨started, place⟩ := Run.isReading_eq_true_iff.mp reading
  rw [Run.answer_of_reading place]
  exact advance fun _ => rfl

end AtRest

/-- The driver on the bench is at rest. -/
def Rests (bench : Bench) : Prop := bench.Every AtRest

/-- Neither the store nor the clock of events moves a thread that is at rest. -/
theorem AtRest.of_eq {run other : Run AnyStore AnySink} (rest : AtRest run)
    (control_eq : other.system.control = run.system.control)
    (position_eq : other.system.sampler.position = run.system.sampler.position)
    (instant_eq : other.instant = run.instant) : AtRest other := by
  constructor
  case waits =>
    unfold Run.Waits
    rw [control_eq]
    exact rest.waits.of_eq position_eq instant_eq rfl
  case long =>
    rw [position_eq, instant_eq]
    exact rest.long
  case outside =>
    rw [control_eq, position_eq]
    exact rest.outside

/-! ## Reads -/

/-- A read for which an outcome was queued. -/
theorem read_of_outcome {queued : QueuedRead} {outcome : Except SensorError Sample}
    (given : queued.outcome = .outcome outcome) :
    bench.read queued = ({ bench with clock := queued.passing.apply bench.clock }, outcome) := by
  simp only [read, given]

/-- A read of the device file when there is none. -/
theorem read_of_none {queued : QueuedRead} (given : queued.outcome = .device)
    (closed : bench.device? = none) :
    bench.read queued =
      ({ bench with clock := queued.passing.apply bench.clock }, .error .notReady) := by
  simp only [read, given, closed]

/-- A read of the device file. -/
theorem read_of_device {queued : QueuedRead} {device : Device} (given : queued.outcome = .device)
    (opened : bench.device? = some device) :
    bench.read queued =
      ({ bench with
          clock := queued.passing.apply bench.clock
          device? := some (device.acquire bench.allFiles).1 },
        (device.acquire bench.allFiles).2) := by
  simp only [read, given, opened]
  rfl

/-- A read moves on the clock and the device, and nothing else. -/
theorem exists_read (bench : Bench) (queued : QueuedRead) :
    ∃ device?, (bench.read queued).1 =
      { bench with clock := queued.passing.apply bench.clock, device? := device? } := by
  cases given : queued.outcome with
  | outcome outcome => exact ⟨_, by rw [read_of_outcome given]⟩
  | device =>
      cases opened : bench.device? with
      | none => exact ⟨_, by rw [read_of_none given opened]⟩
      | some device => exact ⟨_, by rw [read_of_device given opened]⟩

theorem every_read (every : bench.Every P) (queued : QueuedRead)
    (keeps : ∀ run clock, P run → P { run with clock := clock }) :
    (bench.read queued).1.Every P := by
  obtain ⟨device?, read_eq⟩ := bench.exists_read queued
  rw [read_eq]
  intro driver there
  exact keeps _ _ (every driver there)

theorem every_isReading (reading : bench.isReading = true) :
    bench.Every fun run => run.isReading = true := by
  obtain ⟨driver, there, driverReading⟩ := isReading_eq_true_iff.mp reading
  intro other thereToo
  cases Option.some.inj (there.symm.trans thereToo)
  exact driverReading

theorem rests_answer (reading : bench.isReading = true) (queued : QueuedRead) :
    (bench.answer queued).Rests := by
  have still := every_read (every_isReading reading) queued fun _ _ reads => reads
  exact still.update fun run reads => (AtRest.answer reads _).of_eq rfl rfl rfl

theorem rests_feedAll {reads : List QueuedRead} (rests : bench.Rests) :
    (feedAll reads bench).Rests := by
  induction reads generalizing bench with
  | nil => exact rests
  | cons queued rest ih =>
      unfold feedAll
      split
      · rename_i reading
        exact ih (rests_answer reading queued)
      · exact rests

theorem rests_settle (past : bench.Every PastReads) : bench.settle.Rests :=
  rests_feedAll (past.update fun _ past => (AtRest.advance past).of_eq rfl rfl rfl)

theorem Rests.pastReads (rests : bench.Rests) : bench.Every PastReads :=
  fun driver there => (rests driver there).pastReads

/-! ## Requests -/

theorem every_putBack {driver : Driver} {run : Run AnyStore AnySink}
    (holds : P (.ofSystem run.system run.clock run.instant)) :
    (bench.putBack driver run).Every P := by
  intro other there
  cases there
  exact holds

theorem update_eq {driver : Driver} (there : bench.driver? = some driver)
    (f : Run AnyStore AnySink → Run AnyStore AnySink) :
    bench.update f = bench.putBack driver (f (bench.run driver)) := by
  unfold update
  rw [there]

theorem update_id (bench : Bench) : (bench.update fun run => run) = bench := by
  unfold update
  split
  · rfl
  · rename_i driver there
    simp only [putBack, run, Run.ofSystem, List.append_nil, ← there]

theorem request_of_none (gone : bench.driver? = none) (request : Request) (late : QueuedRead) :
    (bench.request request late).1 = bench := by
  unfold Bench.request
  rw [gone]

/-- A thread that is in no read takes nothing out of the queue. -/
theorem feedAll_queue (idle : bench.isReading = false) : feedAll bench.queue bench = bench := by
  cases queue_eq : bench.queue with
  | nil =>
      unfold feedAll
      rw [← queue_eq]
  | cons queued rest =>
      unfold feedAll
      rw [idle, if_neg Bool.false_ne_true, ← queue_eq]

/-- The bench on which a request was handed in, before its thread goes on: a
blocked read is over if the caller has to wait. -/
def asked (bench : Bench) (driver : Driver) (request : Request) (late : QueuedRead) : Bench :=
  let handed := bench.putBack driver ((bench.run driver).request request)
  if (driver.control.submit request).wait?.isSome && handed.isReading then handed.answer late
  else handed

theorem request_eq {driver : Driver} (there : bench.driver? = some driver) (request : Request)
    (late : QueuedRead) :
    (bench.request request late).1 = (bench.asked driver request late).settle := by
  unfold Bench.request asked
  rw [there]
  dsimp only
  rw [update_eq there]

/-- Who takes the request to sample back has to wait. -/
theorem isSome_wait?_of_stopped {control : Control} {request : Request}
    (asked : control.isSampling = true)
    (stopped : (control.submit request).control.isSampling = false) :
    (control.submit request).wait?.isSome = true := by
  cases request with
  | deactivate =>
      rw [Control.submit, if_pos asked]
      rfl
  | shutdown => rfl
  | activate =>
      rw [Control.isSampling, Control.requested_submit] at stopped
      contradiction
  | flush | setDelay _ =>
      rw [Control.isSampling, Control.requested_submit] at stopped
      rw [Control.isSampling, stopped] at asked
      contradiction

theorem rests_request (rests : bench.Rests) (request : Request) (late : QueuedRead) :
    (bench.request request late).1.Rests := by
  cases there : bench.driver? with
  | none =>
      rw [request_of_none there]
      exact rests
  | some driver =>
      rw [request_eq there]
      apply rests_settle
      unfold asked
      dsimp only
      split
      · rename_i answered
        rw [Bool.and_eq_true] at answered
        exact (rests_answer answered.2 late).pastReads
      · rename_i unanswered
        refine every_putBack fun stopped => ?_
        have rest := rests driver there
        -- In a read the thread is asked to sample, so that its caller waits and the
        -- read would have been over.
        cases rest.waits with
        | parked place | asleep place | gone place =>
            change (bench.run driver).system.sampler.position.pastReads = true
            rw [place]
            rfl
        | @reading started place =>
            have reads := Run.isReading_eq_true_iff.mpr ⟨started, place⟩
            have waits := isSome_wait?_of_stopped (rest.isSampling reads) stopped
            have readsStill : (bench.putBack driver
                ((bench.run driver).request request)).isReading = true :=
              isReading_eq_true_iff.mpr ⟨_, rfl, reads⟩
            exact absurd ((Bool.and_eq_true ..).mpr ⟨waits, readsStill⟩) unanswered

theorem stopped_answer (stopped : bench.Every Stopped) (queued : QueuedRead) :
    (bench.answer queued).Every Stopped := by
  have still := every_read stopped queued fun _ _ stopped => stopped
  exact still.update fun run stopped => (Run.isSampling_answer _ run _).trans stopped

theorem stopped_feedAll {reads : List QueuedRead} (stopped : bench.Every Stopped) :
    (feedAll reads bench).Every Stopped := by
  induction reads generalizing bench with
  | nil => exact stopped
  | cons queued rest ih =>
      unfold feedAll
      split
      · exact ih (stopped_answer stopped queued)
      · exact stopped

theorem stopped_settle (stopped : bench.Every Stopped) : bench.settle.Every Stopped :=
  stopped_feedAll (stopped.update fun run stopped => (Run.isSampling_advance _ run).trans stopped)

theorem stopped_request {request : Request}
    (takenBack : ∀ control : Control, (control.submit request).control.isSampling = false)
    (late : QueuedRead) : (bench.request request late).1.Every Stopped := by
  cases there : bench.driver? with
  | none =>
      rw [request_of_none there]
      exact every_of_none there
  | some driver =>
      rw [request_eq there]
      have handed : (bench.putBack driver ((bench.run driver).request request)).Every Stopped :=
        every_putBack (takenBack driver.control)
      apply stopped_settle
      unfold asked
      dsimp only
      split
      · exact stopped_answer handed late
      · exact handed

/-! ## After a step -/

theorem rests_release (bench : Bench) : bench.release.Rests := every_of_none rfl

/-- After every step the driver is at rest. -/
theorem rests_step (rests : bench.Rests) (step : Step) : (bench.step step).Rests := by
  cases step with
  | start sensitivity sink =>
      unfold Bench.step start
      cases sensitivity with
      | error error => exact bench.rests_release
      | ok sensitivity =>
          intro driver there
          cases there
          exact ⟨.parked rfl rfl rfl, nofun, fun _ => rfl⟩
  | activate | deactivate | flush | setDelay => exact rests_request rests _ _
  | deinit => exact bench.rests_release
  | feed reads => exact rests_settle rests.pastReads
  | advance | setClock | save =>
      exact fun driver there => (rests driver there).of_eq rfl rfl rfl
  | receive change => exact rests.update fun run rest => rest.of_eq rfl rfl rfl

/-- After a step that stops the driver, the driver is not asked to sample. -/
theorem stopped_step (bench : Bench) {step : Step} (stops : step.stops = true) :
    (bench.step step).Every Stopped := by
  cases step with
  | deactivate late =>
      refine stopped_request (fun control => ?_) late
      rw [Control.isSampling, Control.requested_submit]
      cases asked : control.requested <;> simp [Control.isSampling, asked]
  | deinit => exact every_of_none rfl
  | _ => contradiction

end Bench

end Magnetometer.Lifecycle
