import Magnetometer.Proofs.Calibration.Observed
import Magnetometer.Proofs.Lifecycle.Flush
import Magnetometer.Proofs.Lifecycle.Rest
import Magnetometer.Proofs.Store.Overwriting

/-!
# A driver without its flushes

Next to a driver that serves flushes one that nobody asks for them: it differs in
the numbers of flushes, sleeps on while the other one serves a flush, and has a
store of its own.  Every turn of the one is a turn of the other or a part of
serving a flush, so that the two sessions, sinks and traces stay the same but for
the writes.

Their stores may differ once a flush was served, until the session ends.  What
was observed stays observed, so that both sessions write at their end, and with
stores that keep nothing of earlier saves the difference is gone.
-/

namespace Magnetometer.Lifecycle

/-! ## Taking the flushes away -/

/-- What was done, without the writes of the session. -/
def withoutWrites (done : List Action) : List Action := done.filter fun action => !action.isPersist

theorem withoutWrites_append (done more : List Action) :
    withoutWrites (done ++ more) = withoutWrites done ++ withoutWrites more :=
  List.filter_append ..

/-- The control block without its flushes. -/
def Control.unflushed (control : Control) : Control :=
  { control with flushesRequested := 0, flushesServed := 0 }

/-- Where a thread would stand that is not serving a flush. -/
def Position.unflushed : Position → Position
  | .flushing deadline _ | .marking deadline _ => .asleep deadline
  | position => position

/-- Whether a thread at a place will write its session before it loads again. -/
def Position.owesWrite : Position → Bool
  | .parked | .loading | .settling | .gone => false
  | _ => true

variable {σ κ : Type}

/-- The thread that is not serving a flush. -/
def Sampler.unflushed (sampler : Sampler κ) : Sampler κ := sampler.move sampler.position.unflushed

theorem Sampler.unflushed_of_asleep {sampler : Sampler κ} {deadline : Nat}
    (place : sampler.position = .asleep deadline) :
    sampler.unflushed = sampler.move (.asleep deadline) := by
  rw [unflushed, place]
  rfl

theorem Sampler.unflushed_of_serving {sampler : Sampler κ} {deadline target : Nat}
    (place : sampler.position = .flushing deadline target ∨
      sampler.position = .marking deadline target) :
    sampler.unflushed = sampler.move (.asleep deadline) := by
  rcases place with place | place
  · rw [unflushed, place, Position.unflushed]
  · rw [unflushed, place, Position.unflushed]

theorem Control.isSome_wait?_unflushed (control : Control) (request : Request) :
    (control.unflushed.submit request).wait?.isSome =
      (control.submit request).wait?.isSome := by
  cases request with
  | deactivate | flush =>
      by_cases asked : control.requested = .sampling <;>
        simp [submit, unflushed, isSampling, asked]
  | setDelay microseconds =>
      by_cases negative : microseconds < 0 <;> simp [submit, negative]
  | _ => rfl

/-- The driver that was not asked for flushes, with a store of its own. -/
def System.unflushed (system : System σ κ) (store : σ) : System σ κ :=
  ⟨system.control.unflushed, system.sampler.unflushed, store⟩

theorem Control.unflushed_submit (control : Control) {request : Request}
    (other : request ≠ .flush) :
    (control.submit request).control.unflushed = (control.unflushed.submit request).control := by
  cases request with
  | flush => exact absurd rfl other
  | shutdown => rfl
  | activate | deactivate =>
      by_cases asked : control.requested = .sampling <;>
        simp [submit, activate, deactivate, unflushed, isSampling, asked]
  | setDelay microseconds =>
      by_cases negative : microseconds < 0 <;> simp [submit, unflushed, negative]

theorem Control.unflushed_flush (control : Control) :
    control.flush.unflushed = control.unflushed := by
  unfold flush
  split <;> rfl

variable [CalibrationStore σ] {γ : Type}

/-- How the stores of a driver and of one without its flushes belong together. -/
structure Apart (Good : σ → Prop) (content : σ → γ) (system : System σ κ) (store : σ) : Prop where
  good : Good system.store
  goodToo : Good store
  /-- The contents differ only in a session that will write. -/
  contents : content system.store = content store ∨
    system.sampler.position.owesWrite = true ∧
      system.sampler.session.calibrator.hasObservations = true
  ordered : system.sampler.session.Ordered

namespace Apart

variable {Good : σ → Prop} {content : σ → γ} {system : System σ κ} {store : σ}

omit [CalibrationStore σ] in
theorem content_eq (apart : Apart Good content system store)
    (written : system.sampler.position.owesWrite = false) :
    content system.store = content store := by
  rcases apart.contents with same | ⟨owed, -⟩
  · exact same
  · rw [written] at owed
    contradiction

omit [CalibrationStore σ] in
/-- The thread goes on, and does not come to the end of its session. -/
theorem go (apart : Apart Good content system store) (control : Control) {position : Position}
    (owes : system.sampler.position.owesWrite = true → position.owesWrite = true) :
    Apart Good content ⟨control, system.sampler.move position, system.store⟩ store := by
  refine ⟨apart.good, apart.goodToo, ?_, apart.ordered⟩
  rcases apart.contents with same | ⟨owed, observed⟩
  · exact .inl same
  · exact .inr ⟨owes owed, observed⟩

/-- Both drivers load. -/
theorem load (apart : Apart Good content system store) (laws : Overwriting Good content)
    (place : system.sampler.position = .loading) (sink : κ) :
    (system.sampler.session.restore system.store).loaded =
        (system.sampler.session.restore store).loaded ∧
      (system.sampler.session.restore system.store).session =
        (system.sampler.session.restore store).session ∧
      Apart Good content
        ⟨system.control, ⟨.starting, (system.sampler.session.restore system.store).session, sink⟩,
          (system.sampler.session.restore system.store).store⟩
        (system.sampler.session.restore store).store := by
  have same := apart.content_eq (by rw [place]; rfl)
  have result_eq := laws.loaded_eq apart.good apart.goodToo same
  obtain ⟨session_eq, loaded_eq, store_eq⟩ := Session.restore_eq system.sampler.session system.store
  obtain ⟨sessionToo, loadedToo, storeToo⟩ := Session.restore_eq system.sampler.session store
  rw [session_eq, loaded_eq, store_eq, sessionToo, loadedToo, storeToo, result_eq]
  refine ⟨rfl, rfl, laws.good_load apart.good, laws.good_load apart.goodToo, .inl ?_,
    apart.ordered.restoredFrom _⟩
  exact (laws.content_load _).trans (same.trans (laws.content_load _).symm)

omit [CalibrationStore σ] in
/-- Both sessions take in a sample. -/
theorem ingest (apart : Apart Good content system store) (sample : Sample) (sink : κ)
    {position : Position}
    (owes : system.sampler.position.owesWrite = true → position.owesWrite = true) :
    Apart Good content
      ⟨system.control, ⟨position, (system.sampler.session.ingest sample).1, sink⟩, system.store⟩
      store := by
  refine ⟨apart.good, apart.goodToo, ?_, apart.ordered.ingest sample⟩
  rcases apart.contents with same | ⟨owed, observed⟩
  · exact .inl same
  · exact .inr ⟨owes owed, apart.ordered.hasObservations_ingest observed sample⟩

/-- Only the driver with flushes writes. -/
theorem flush (apart : Apart Good content system store) (laws : Overwriting Good content)
    {position : Position} (owes : position.owesWrite = true) :
    Apart Good content
      ⟨system.control, system.sampler.move position,
        (system.sampler.session.persist system.store).store⟩ store := by
  unfold Session.persist
  split
  · rename_i observed
    exact ⟨laws.good_save apart.good _, apart.goodToo, .inr ⟨owes, observed⟩, apart.ordered⟩
  · exact apart.go _ fun _ => owes

/-- Both drivers write at the end of a session. -/
theorem close (apart : Apart Good content system store) (laws : Overwriting Good content) :
    Apart Good content
      ⟨system.control, system.sampler.move .settling,
        (system.sampler.session.persist system.store).store⟩
      (system.sampler.session.persist store).store := by
  unfold Session.persist
  split
  · exact ⟨laws.good_save apart.good _, laws.good_save apart.goodToo _,
      .inl (laws.content_save apart.good apart.goodToo _), apart.ordered⟩
  · rename_i unobserved
    refine ⟨apart.good, apart.goodToo, .inl ?_, apart.ordered⟩
    -- Contents that differ belong to a session that has observed something.
    rcases apart.contents with same | ⟨-, observed⟩
    · exact same
    · exact absurd observed unobserved

/-- Someone else saves an offset into both stores. -/
theorem save (apart : Apart Good content system store) (laws : Overwriting Good content)
    (offset : HardIronOffset) :
    Apart Good content
      { system with store := (CalibrationStore.save system.store offset).store }
      (CalibrationStore.save store offset).store :=
  ⟨laws.good_save apart.good offset, laws.good_save apart.goodToo offset,
    .inl (laws.content_save apart.good apart.goodToo offset), apart.ordered⟩

end Apart

/-! ## Turns -/

variable [EventSink κ]

/-- What a driver does while another one takes a turn and does something: it stays
where it is, or takes a turn and does the same but for writes. -/
inductive Follows (system : System σ κ) (surroundings : Surroundings) (did : List Action) :
    System σ κ → Prop
  | stays (none_seen : withoutWrites did = []) : Follows system surroundings did system
  | turns {turn : Turn σ κ}
      (takes : system.sampler.Takes system.control system.store surroundings turn)
      (same : withoutWrites turn.actions = withoutWrites did) :
      Follows system surroundings did ⟨turn.control, turn.sampler, turn.store⟩

/-- The driver without flushes follows every turn of the other one. -/
theorem Apart.turn {Good : σ → Prop} {content : σ → γ} {system : System σ κ} {store : σ}
    {surroundings : Surroundings} {turn : Turn σ κ} (apart : Apart Good content system store)
    (laws : Overwriting Good content)
    (takes : system.sampler.Takes system.control system.store surroundings turn) :
    ∃ next, Apart Good content ⟨turn.control, turn.sampler, turn.store⟩ next ∧
      Follows (system.unflushed store) surroundings turn.actions
        ((⟨turn.control, turn.sampler, turn.store⟩ : System σ κ).unflushed next) := by
  have unflushed_eq : (system.unflushed store).sampler.position =
    system.sampler.position.unflushed := rfl
  cases takes with
  | begin place asked =>
      rw [place] at unflushed_eq
      exact ⟨store, apart.go _ (by rw [place]; nofun), .turns (.begin unflushed_eq asked) rfl⟩
  | leave place asked =>
      rw [place] at unflushed_eq
      exact ⟨store, apart.go _ (by rw [place]; nofun), .turns (.leave unflushed_eq asked) rfl⟩
  | park place asked unsettled =>
      rw [place] at unflushed_eq
      exact ⟨store, apart.go _ (by rw [place]; nofun),
        .turns (.park unflushed_eq asked unsettled) rfl⟩
  | load place =>
      rw [place] at unflushed_eq
      obtain ⟨loaded_eq, session_eq, loaded⟩ := apart.load laws place system.sampler.sink
      refine ⟨_, loaded, ?_⟩
      rw [loaded_eq, session_eq]
      exact .turns (.load unflushed_eq) rfl
  | beginRead place =>
      rw [place] at unflushed_eq
      exact ⟨store, apart.go _ fun _ => rfl, .turns (.beginRead unflushed_eq) rfl⟩
  | endRead place given =>
      rw [place] at unflushed_eq
      exact ⟨store, apart.go _ fun _ => rfl, .turns (.endRead unflushed_eq given) rfl⟩
  | proceed place asked =>
      rw [place] at unflushed_eq
      exact ⟨store, apart.go _ fun _ => rfl, .turns (.proceed unflushed_eq asked) rfl⟩
  | discard place stopped =>
      rw [place] at unflushed_eq
      exact ⟨store, apart.go _ fun _ => rfl, .turns (.discard unflushed_eq stopped) rfl⟩
  | publish place published =>
      rw [place] at unflushed_eq
      exact ⟨store, apart.ingest _ _ fun _ => rfl, .turns (.publish unflushed_eq published) rfl⟩
  | fail place =>
      rw [place] at unflushed_eq
      exact ⟨store, apart.go _ fun _ => rfl, .turns (.fail unflushed_eq) rfl⟩
  | rest place =>
      rw [place] at unflushed_eq
      exact ⟨store, apart.go _ fun _ => rfl, .turns (.rest unflushed_eq) rfl⟩
  | stop place stopped =>
      rw [place] at unflushed_eq
      exact ⟨store, apart.go _ fun _ => rfl, .turns (.stop unflushed_eq stopped) rfl⟩
  | awake place asked settled passed =>
      rw [place] at unflushed_eq
      exact ⟨store, apart.go _ fun _ => rfl, .turns (.awake unflushed_eq asked rfl passed) rfl⟩
  | close place =>
      rw [place] at unflushed_eq
      exact ⟨_, apart.close laws, .turns (.close unflushed_eq) rfl⟩
  | settle place =>
      rw [place] at unflushed_eq
      exact ⟨store, apart.go _ (by rw [place]; nofun), .turns (.settle unflushed_eq) rfl⟩
  -- The three turns that serve a flush leave the other driver asleep.
  | @serve deadline place asked pending =>
      refine ⟨store, apart.go _ fun _ => rfl, ?_⟩
      rw [System.unflushed, Sampler.unflushed_of_asleep place]
      exact .stays rfl
  | @flush deadline target place =>
      refine ⟨store, apart.flush laws rfl, ?_⟩
      rw [System.unflushed, Sampler.unflushed_of_serving (.inl place)]
      exact .stays rfl
  | @mark deadline target place =>
      refine ⟨store, apart.go _ fun _ => rfl, ?_⟩
      rw [System.unflushed, Sampler.unflushed_of_serving (.inr place)]
      exact .stays rfl

/-! ## Runs -/

namespace Run

/-- Two runs that differ in the flushes that were asked for in the first one. -/
structure Beside (Good : σ → Prop) (content : σ → γ) (run other : Run σ κ) : Prop where
  apart : Apart Good content run.system other.system.store
  system_eq : other.system = run.system.unflushed other.system.store
  clock_eq : other.clock = run.clock
  instant_eq : other.instant = run.instant
  actions_eq : withoutWrites other.actions = withoutWrites run.actions

namespace Beside

variable {Good : σ → Prop} {content : σ → γ} {run other : Run σ κ}

omit [CalibrationStore σ] [EventSink κ] in
theorem control_eq (beside : Beside Good content run other) :
    other.system.control = run.system.control.unflushed := by
  rw [beside.system_eq]
  rfl

omit [CalibrationStore σ] [EventSink κ] in
theorem position_eq (beside : Beside Good content run other) :
    other.system.sampler.position = run.system.sampler.position.unflushed := by
  rw [beside.system_eq]
  rfl

theorem turn {next : Run σ κ} {read? : Option (Except SensorError Sample)}
    (beside : Beside Good content run other) (laws : Overwriting Good content)
    (taken : run.turn? read? = some next) :
    Beside Good content next other ∨
      ∃ nextOther, other.turn? read? = some nextOther ∧ Beside Good content next nextOther := by
  obtain ⟨turn, takes, rfl⟩ := turn?_eq_some_iff.mp taken
  obtain ⟨store, apart, follows⟩ := beside.apart.turn laws takes
  rw [← beside.system_eq, ← beside.clock_eq, ← beside.instant_eq] at follows
  generalize final_eq :
    (⟨turn.control, turn.sampler, turn.store⟩ : System σ κ).unflushed store = final at follows
  have store_eq : store = final.store := congrArg System.store final_eq
  subst store_eq
  cases follows with
  | stays none_seen =>
      refine .inl ⟨apart, final_eq.symm, beside.clock_eq, beside.instant_eq, ?_⟩
      change _ = withoutWrites (run.actions ++ turn.actions)
      rw [withoutWrites_append, none_seen, List.append_nil, beside.actions_eq]
  | @turns turnOther takesOther same =>
      refine .inr ⟨other.took turnOther, turn?_eq_some_iff.mpr ⟨turnOther, takesOther, rfl⟩, apart,
        final_eq.symm, beside.clock_eq, beside.instant_eq, ?_⟩
      change withoutWrites (other.actions ++ turnOther.actions) =
        withoutWrites (run.actions ++ turn.actions)
      rw [withoutWrites_append, withoutWrites_append, same, beside.actions_eq]

omit [CalibrationStore σ] [EventSink κ] in
/-- A thread that waits serves no flush, so that the other one waits as well. -/
theorem waits (beside : Beside Good content run other) (waits : run.Waits) :
    other.Waits ∧ other.system.sampler.position = run.system.sampler.position := by
  have place_eq := beside.position_eq
  have control_eq := beside.control_eq
  cases waits with
  | parked place asked settled =>
      rw [place] at place_eq ⊢
      exact ⟨.parked place_eq (by rw [control_eq]; exact asked) (by rw [control_eq]; exact settled),
        place_eq⟩
  | reading place blocked =>
      rw [place] at place_eq ⊢
      exact ⟨.reading place_eq rfl, place_eq⟩
  | asleep place asked settled early =>
      rw [place] at place_eq ⊢
      refine ⟨.asleep place_eq (by rw [control_eq]; exact asked) (by rw [control_eq]; rfl) ?_,
        place_eq⟩
      rw [beside.instant_eq]
      exact early
  | gone place =>
      rw [place] at place_eq ⊢
      exact ⟨.gone place_eq, place_eq⟩

omit [CalibrationStore σ] [EventSink κ] in
theorem sleep?_eq_none (beside : Beside Good content run other) {patience : Option Nat}
    (place_eq : other.system.sampler.position = run.system.sampler.position)
    (long : run.sleep? patience = none) : other.sleep? patience = none := by
  rw [Option.eq_none_iff_forall_ne_some]
  intro next slept
  obtain ⟨deadline, place, short, -⟩ := sleep?_eq_some_iff.mp slept
  rw [beside.instant_eq] at short
  have sleeps := sleep?_eq_some_iff.mpr ⟨deadline, place_eq.symm.trans place, short, rfl⟩
  rw [long] at sleeps
  contradiction

omit [CalibrationStore σ] [EventSink κ] in
theorem sleep {next : Run σ κ} (beside : Beside Good content run other) {patience : Option Nat}
    (place_eq : other.system.sampler.position = run.system.sampler.position)
    (slept : run.sleep? patience = some next) :
    ∃ nextOther, other.sleep? patience = some nextOther ∧ Beside Good content next nextOther := by
  obtain ⟨deadline, place, short, rfl⟩ := sleep?_eq_some_iff.mp slept
  rw [← beside.instant_eq] at short
  refine ⟨_, sleep?_eq_some_iff.mpr ⟨deadline, place_eq.trans place, short, rfl⟩, ?_⟩
  exact ⟨beside.apart, beside.system_eq, beside.clock_eq,
    congrArg (max · deadline) beside.instant_eq, beside.actions_eq⟩

/-- Where one run comes to rest, so does the other one. -/
theorem settles {patience : Option Nat} {last : Run σ κ} (beside : Beside Good content run other)
    (laws : Overwriting Good content) (settles : Settles patience run last) :
    ∃ lastOther, Settles patience other lastOther ∧ Beside Good content last lastOther := by
  induction settles generalizing other with
  | rest waits long =>
      obtain ⟨waitsToo, place_eq⟩ := beside.waits waits
      exact ⟨other, .rest waitsToo (beside.sleep?_eq_none place_eq long), beside⟩
  | turn taken _ ih =>
      rcases beside.turn laws taken with stays | ⟨nextOther, takenToo, besideNext⟩
      · exact ih stays
      · obtain ⟨lastOther, settlesOther, besideLast⟩ := ih besideNext
        exact ⟨lastOther, .turn takenToo settlesOther, besideLast⟩
  | sleep waits slept _ ih =>
      obtain ⟨waitsToo, place_eq⟩ := beside.waits waits
      obtain ⟨nextOther, sleptToo, besideNext⟩ := beside.sleep place_eq slept
      obtain ⟨lastOther, settlesOther, besideLast⟩ := ih besideNext
      exact ⟨lastOther, .sleep waitsToo sleptToo settlesOther, besideLast⟩

theorem advance (beside : Beside Good content run other) (laws : Overwriting Good content)
    (patience : Option Nat) :
    Beside Good content (run.advance patience) (other.advance patience) := by
  obtain ⟨last, settlesOther, besideLast⟩ := beside.settles laws (settles_advance patience run)
  rw [settlesOther.advance_eq]
  exact besideLast

/-- A run that is at rest may stay where it is while the other one goes on. -/
theorem advance_left (beside : Beside Good content run other) (laws : Overwriting Good content)
    {patience : Option Nat} (waits : other.Waits) (long : other.sleep? patience = none) :
    Beside Good content (run.advance patience) other := by
  obtain ⟨last, settlesOther, besideLast⟩ := beside.settles laws (settles_advance patience run)
  rw [(Settles.rest waits long).eq settlesOther] at besideLast
  exact besideLast

omit [CalibrationStore σ] [EventSink κ] in
theorem reading (beside : Beside Good content run other) {started : UInt64}
    (place : run.system.sampler.position = .reading started) :
    other.system.sampler.position = .reading started := by
  rw [beside.position_eq, place]
  rfl

omit [CalibrationStore σ] [EventSink κ] in
theorem isReading_eq (beside : Beside Good content run other) :
    other.isReading = run.isReading := by
  unfold isReading
  rw [beside.position_eq]
  cases run.system.sampler.position <;> rfl

/-- The same read comes to its end in both runs. -/
theorem answer (beside : Beside Good content run other) (laws : Overwriting Good content)
    (patience : Option Nat) {started : UInt64}
    (place : run.system.sampler.position = .reading started)
    (outcome : Except SensorError Sample) :
    Beside Good content (run.answer patience outcome) (other.answer patience outcome) := by
  rw [answer_of_reading place, answer_of_reading (beside.reading place)]
  refine advance ?_ laws patience
  constructor
  case apart => exact beside.apart.go _ fun _ => rfl
  case system_eq =>
    exact congrArg (fun system : System σ κ =>
      System.mk system.control (system.sampler.move (.checking started outcome)) system.store)
      beside.system_eq
  case clock_eq => exact beside.clock_eq
  case instant_eq => exact beside.instant_eq
  case actions_eq =>
    change withoutWrites (other.actions ++ [.endRead outcome]) =
      withoutWrites (run.actions ++ [.endRead outcome])
    rw [withoutWrites_append, withoutWrites_append, beside.actions_eq]

omit [CalibrationStore σ] [EventSink κ] in
theorem request (beside : Beside Good content run other) {request : Request}
    (unlike : request ≠ .flush) :
    Beside Good content (run.request request) (other.request request) := by
  refine ⟨⟨beside.apart.good, beside.apart.goodToo, beside.apart.contents, beside.apart.ordered⟩,
    ?_, beside.clock_eq, beside.instant_eq, beside.actions_eq⟩
  change (⟨(other.system.control.submit request).control, other.system.sampler,
    other.system.store⟩ : System σ κ) = _
  rw [beside.control_eq, ← Control.unflushed_submit _ unlike]
  exact congrArg (fun system : System σ κ =>
    System.mk (run.system.control.submit request).control.unflushed system.sampler system.store)
    beside.system_eq

omit [CalibrationStore σ] [EventSink κ] in
/-- A flush is asked for in the first run only. -/
theorem flush (beside : Beside Good content run other) :
    Beside Good content (run.request .flush) other := by
  refine ⟨⟨beside.apart.good, beside.apart.goodToo, beside.apart.contents, beside.apart.ordered⟩,
    ?_, beside.clock_eq, beside.instant_eq, beside.actions_eq⟩
  change other.system = ⟨run.system.control.flush.unflushed, run.system.sampler.unflushed,
    other.system.store⟩
  rw [Control.unflushed_flush]
  exact beside.system_eq

end Beside

end Run

end Magnetometer.Lifecycle
