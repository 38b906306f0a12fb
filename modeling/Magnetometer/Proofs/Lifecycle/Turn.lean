import Magnetometer.Lifecycle.System
import Magnetometer.Proofs.Session

/-!
# The moves of a driver, case by case

`Takes` lists what a turn of the sampling thread can come to, one constructor
for each way through a place, and `turn?_eq_some_iff` says that the list is
exact.  `Happens` does the same for the moves of a driver, and
`run?_invariant` is the induction over runs.  What holds of every run is proved
by cases on these two and never by opening the functions that run.
-/

namespace Magnetometer.Lifecycle

variable {σ κ : Type} [CalibrationStore σ] [EventSink κ]

namespace Sampler

/-- The notices that a failed read gives; one that was not ready gives none. -/
def failureNotices : SensorError → List Notice
  | .notReady => []
  | error => [.readFailed error]

/-- What a turn of the thread may come to. -/
inductive Takes (s : Sampler κ) (control : Control) (store : σ) (surroundings : Surroundings) :
    Turn σ κ → Prop
  | begin (place : s.position = .parked) (asked : control.requested = .sampling) :
      Takes s control store surroundings
        (s.go control.settle store [] .loading)
  | leave (place : s.position = .parked) (asked : control.requested = .shutdown) :
      Takes s control store surroundings
        (s.go control.settle store [] .gone)
  | park (place : s.position = .parked) (asked : control.requested = .idle)
      (unsettled : control.acknowledged ≠ .idle) :
      Takes s control store surroundings
        (s.go control.settle store [] .parked)
  | load (place : s.position = .loading) :
      Takes s control store surroundings
        ⟨control, ⟨.starting, (s.session.restore store).session, s.sink⟩,
          (s.session.restore store).store, [.load (s.session.restore store).loaded],
          (s.session.restore store).notices⟩
  | beginRead (place : s.position = .starting) :
      Takes s control store surroundings
        (s.go control store [.beginRead] (.reading surroundings.clock))
  | endRead {started : UInt64} {outcome : Except SensorError Sample}
      (place : s.position = .reading started) (given : surroundings.read? = some outcome) :
      Takes s control store surroundings
        (s.go control store [.endRead outcome] (.checking started outcome))
  | proceed {started : UInt64} {outcome : Except SensorError Sample}
      (place : s.position = .checking started outcome) (asked : control.isSampling = true) :
      Takes s control store surroundings
        (s.go control store [.check true] (.handling started outcome))
  | discard {started : UInt64} {outcome : Except SensorError Sample}
      (place : s.position = .checking started outcome) (stopped : control.isSampling = false) :
      Takes s control store surroundings (s.go control store [.check false] .closing)
  | publish {started : UInt64} {sample : Sample} {event : Event}
      (place : s.position = .handling started (.ok sample))
      (published : (s.session.ingest sample).1.event? surroundings.clock = some event) :
      Takes s control store surroundings
        ⟨control,
          ⟨.resting started, (s.session.ingest sample).1, (EventSink.emit s.sink event).1⟩,
          store, [.ingest sample, .emit event], (EventSink.emit s.sink event).2⟩
  | fail {started : UInt64} {error : SensorError}
      (place : s.position = .handling started (.error error)) :
      Takes s control store surroundings
        ⟨control, s.move (.resting started), store, [], failureNotices error⟩
  | rest {started : UInt64} (place : s.position = .resting started) :
      Takes s control store surroundings
        (s.go control store [] (.asleep (deadline control surroundings started)))
  | stop {deadline : Nat} (place : s.position = .asleep deadline)
      (stopped : control.isSampling = false) :
      Takes s control store surroundings (s.go control store [] .closing)
  | serve {deadline : Nat} (place : s.position = .asleep deadline)
      (asked : control.isSampling = true) (pending : control.flushPending = true) :
      Takes s control store surroundings
        (s.go control store [] (.flushing deadline control.flushesRequested))
  | awake {deadline : Nat} (place : s.position = .asleep deadline)
      (asked : control.isSampling = true) (settled : control.flushPending = false)
      (passed : deadline ≤ surroundings.instant) :
      Takes s control store surroundings (s.go control store [] .starting)
  | flush {deadline target : Nat} (place : s.position = .flushing deadline target) :
      Takes s control store surroundings (s.write control store (.marking deadline target))
  | mark {deadline target : Nat} (place : s.position = .marking deadline target) :
      Takes s control store surroundings
        (s.go (control.serve target) store [] (.asleep deadline))
  | close (place : s.position = .closing) :
      Takes s control store surroundings (s.write control store .settling)
  | settle (place : s.position = .settling) :
      Takes s control store surroundings
        ⟨control.serve control.flushesRequested, s.move .parked, store, [],
          [.stopped s.session.count]⟩

omit [CalibrationStore σ] in
theorem handle_error (s : Sampler κ) (control : Control) (store : σ) (clock started : UInt64)
    (error : SensorError) :
    s.handle control store clock started (.error error) =
      ⟨control, s.move (.resting started), store, [], failureNotices error⟩ := by
  cases error <;> rfl

omit [CalibrationStore σ] in
theorem handle_ok {s : Sampler κ} {sample : Sample} {clock : UInt64} {event : Event}
    (published : (s.session.ingest sample).1.event? clock = some event)
    (control : Control) (store : σ) (started : UInt64) :
    s.handle control store clock started (.ok sample) =
      ⟨control,
        ⟨.resting started, (s.session.ingest sample).1, (EventSink.emit s.sink event).1⟩,
        store, [.ingest sample, .emit event], (EventSink.emit s.sink event).2⟩ := by
  simp [handle, Session.publish, published]

theorem takes_of_settle? {s : Sampler κ} {control : Control} {store : σ} {turn : Turn σ κ}
    (place : s.position = .parked) (settled : s.settle? control store = some turn)
    (surroundings : Surroundings) : Takes s control store surroundings turn := by
  unfold settle? at settled
  cases asked : control.requested with
  | sampling =>
      simp only [asked, Option.some.injEq] at settled
      subst settled
      exact .begin place asked
  | shutdown =>
      simp only [asked, Option.some.injEq] at settled
      subst settled
      exact .leave place asked
  | idle =>
      by_cases idle : control.acknowledged = .idle
      · simp [asked, idle] at settled
      · simp only [asked, idle, if_false, Option.some.injEq] at settled
        subst settled
        exact .park place asked idle

theorem takes_of_wake? {s : Sampler κ} {control : Control} {store : σ} {turn : Turn σ κ}
    {surroundings : Surroundings} {deadline : Nat} (place : s.position = .asleep deadline)
    (woken : s.wake? control store surroundings.instant deadline = some turn) :
    Takes s control store surroundings turn := by
  unfold wake? at woken
  cases asked : control.isSampling with
  | false =>
      simp only [asked, Bool.not_false, if_true, Option.some.injEq] at woken
      subst woken
      exact .stop place asked
  | true =>
      cases pending : control.flushPending with
      | true =>
          simp only [asked, pending, Bool.not_true, Bool.false_eq_true, if_false, if_true,
            Option.some.injEq] at woken
          subst woken
          exact .serve place asked pending
      | false =>
          by_cases passed : deadline ≤ surroundings.instant
          · simp only [asked, pending, passed, Bool.not_true, Bool.false_eq_true, if_false, if_true,
              Option.some.injEq] at woken
            subst woken
            exact .awake place asked pending passed
          · simp [asked, pending, passed] at woken

/-- The list of turns is exact. -/
theorem turn?_eq_some_iff {s : Sampler κ} {control : Control} {store : σ}
    {surroundings : Surroundings} {turn : Turn σ κ} :
    s.turn? control store surroundings = some turn ↔ Takes s control store surroundings turn := by
  constructor
  · intro taken
    unfold turn? at taken
    cases place : s.position with
    | parked =>
        simp only [place] at taken
        exact takes_of_settle? place taken surroundings
    | reading started =>
        simp only [place] at taken
        obtain ⟨outcome, given, rfl⟩ := Option.map_eq_some_iff.mp taken
        exact .endRead place given
    | checking started outcome =>
        simp only [place, Option.some.injEq] at taken
        subst taken
        cases asked : control.isSampling with
        | true => exact .proceed place asked
        | false => exact .discard place asked
    | handling started outcome =>
        simp only [place, Option.some.injEq] at taken
        subst taken
        cases outcome with
        | ok sample =>
            obtain ⟨event, published⟩ :=
              s.session.exists_event?_ingest sample surroundings.clock
            rw [handle_ok published]
            exact .publish place published
        | error error =>
            rw [handle_error]
            exact .fail place
    | asleep deadline =>
        simp only [place] at taken
        exact takes_of_wake? place taken
    | loading =>
        simp only [place, Option.some.injEq] at taken
        subst taken
        exact .load place
    | starting =>
        simp only [place, Option.some.injEq] at taken
        subst taken
        exact .beginRead place
    | resting started =>
        simp only [place, Option.some.injEq] at taken
        subst taken
        exact .rest place
    | flushing deadline target =>
        simp only [place, Option.some.injEq] at taken
        subst taken
        exact .flush place
    | marking deadline target =>
        simp only [place, Option.some.injEq] at taken
        subst taken
        exact .mark place
    | closing =>
        simp only [place, Option.some.injEq] at taken
        subst taken
        exact .close place
    | settling =>
        simp only [place, Option.some.injEq] at taken
        subst taken
        exact .settle place
    | gone => simp [place] at taken
  · intro takes
    cases takes with
    | publish place published => simp only [turn?, place, handle_ok published]
    | fail place => simp only [turn?, place, handle_error]
    | _ => simp_all [turn?, settle?, wake?]

end Sampler

namespace System

/-- What a move of a driver may come to. -/
inductive Happens (system : System σ κ) : Move → Moved σ κ → Prop
  | request {request : Request} (held : system.control.requested ≠ .shutdown) :
      Happens system (.request request) ⟨system.request request, [], []⟩
  | turn {surroundings : Surroundings} {turn : Turn σ κ}
      (takes : system.sampler.Takes system.control system.store surroundings turn) :
      Happens system (.turn surroundings)
        ⟨⟨turn.control, turn.sampler, turn.store⟩, turn.actions, turn.notices⟩
  | save {offset : HardIronOffset} :
      Happens system (.save offset)
        ⟨{ system with store := (CalibrationStore.save system.store offset).store }, [], []⟩

theorem turn?_eq_some_iff {system : System σ κ} {surroundings : Surroundings}
    {moved : Moved σ κ} :
    system.turn? surroundings = some moved ↔
      ∃ turn, system.sampler.Takes system.control system.store surroundings turn ∧
        moved = ⟨⟨turn.control, turn.sampler, turn.store⟩, turn.actions, turn.notices⟩ := by
  unfold turn?
  rw [Option.map_eq_some_iff]
  constructor
  · rintro ⟨turn, taken, rfl⟩
    exact ⟨turn, Sampler.turn?_eq_some_iff.mp taken, rfl⟩
  · rintro ⟨turn, takes, rfl⟩
    exact ⟨turn, Sampler.turn?_eq_some_iff.mpr takes, rfl⟩

/-- The list of moves is exact. -/
theorem move?_eq_some_iff {system : System σ κ} {move : Move} {moved : Moved σ κ} :
    system.move? move = some moved ↔ Happens system move moved := by
  constructor
  · intro made
    cases move with
    | request request =>
        by_cases released : system.control.requested = .shutdown
        · simp [move?, released] at made
        · simp only [move?, released, if_false, Option.some.injEq] at made
          subst made
          exact .request released
    | turn surroundings =>
        obtain ⟨turn, takes, rfl⟩ := turn?_eq_some_iff.mp made
        exact .turn takes
    | save offset =>
        simp only [move?, Option.some.injEq] at made
        subst made
        exact .save
  · intro happens
    cases happens with
    | request held => simp [move?, held]
    | turn takes => exact turn?_eq_some_iff.mpr ⟨_, takes, rfl⟩
    | save => rfl

theorem run?_cons_eq_some_iff {system : System σ κ} {move : Move} {rest : List Move}
    {last : Moved σ κ} :
    system.run? (move :: rest) = some last ↔
      ∃ first final, system.move? move = some first ∧ first.system.run? rest = some final ∧
        last = ⟨final.system, first.actions ++ final.actions, first.notices ++ final.notices⟩ := by
  simp only [run?, Option.bind_eq_bind, Option.bind_eq_some_iff, Option.pure_def,
    Option.some.injEq]
  constructor
  · rintro ⟨first, moved, final, run, rfl⟩
    exact ⟨first, final, moved, run, rfl⟩
  · rintro ⟨first, final, moved, run, rfl⟩
    exact ⟨first, moved, final, run, rfl⟩

/-- A run of moves and more moves is a run of the moves with a run of the others
after it. -/
theorem run?_append_eq_some_iff {system : System σ κ} {moves more : List Move}
    {last : Moved σ κ} :
    system.run? (moves ++ more) = some last ↔
      ∃ middle final, system.run? moves = some middle ∧ middle.system.run? more = some final ∧
        last = ⟨final.system, middle.actions ++ final.actions,
          middle.notices ++ final.notices⟩ := by
  induction moves generalizing system last with
  | nil =>
      constructor
      · intro run
        exact ⟨⟨system, [], []⟩, last, rfl, run, rfl⟩
      · rintro ⟨middle, final, stay, run, rfl⟩
        cases stay
        exact run
  | cons move rest ih =>
      rw [List.cons_append, run?_cons_eq_some_iff]
      constructor
      · rintro ⟨first, tail, moved, run, rfl⟩
        obtain ⟨middle, final, reached, runs, rfl⟩ := ih.mp run
        refine ⟨_, final, run?_cons_eq_some_iff.mpr ⟨first, middle, moved, reached, rfl⟩, runs, ?_⟩
        simp only [List.append_assoc]
      · rintro ⟨middle, final, reached, runs, rfl⟩
        obtain ⟨first, tail, moved, reachedTail, rfl⟩ := run?_cons_eq_some_iff.mp reached
        refine ⟨first, _, moved, ih.mpr ⟨tail, final, reachedTail, runs, rfl⟩, ?_⟩
        simp only [List.append_assoc]

/-- What every allowed move keeps, with the actions so far, holds at the end of
every run of allowed moves. -/
theorem run?_invariant_of_allowed (Allowed : Move → Prop)
    (Holds : List Action → System σ κ → Prop)
    (kept : ∀ ⦃done system move moved⦄, Holds done system → Allowed move →
      Happens system move moved → Holds (done ++ moved.actions) moved.system)
    {moves : List Move} {system : System σ κ} {last : Moved σ κ}
    (run : system.run? moves = some last) (allowed : ∀ move ∈ moves, Allowed move)
    {done : List Action} (start : Holds done system) :
    Holds (done ++ last.actions) last.system := by
  induction moves generalizing system last done with
  | nil =>
      simp only [run?, Option.some.injEq] at run
      subst run
      simpa using start
  | cons move rest ih =>
      obtain ⟨first, final, moved, runs, rfl⟩ := run?_cons_eq_some_iff.mp run
      have next : Holds (done ++ first.actions) first.system :=
        kept start (allowed move List.mem_cons_self) (move?_eq_some_iff.mp moved)
      have allowedRest : ∀ move ∈ rest, Allowed move :=
        fun move mem => allowed move (List.mem_cons_of_mem _ mem)
      simpa only [List.append_assoc] using ih runs allowedRest next

/-- What every move keeps, with the actions so far, holds at the end of every
run. -/
theorem run?_invariant (Holds : List Action → System σ κ → Prop)
    (kept : ∀ ⦃done system move moved⦄, Holds done system → Happens system move moved →
      Holds (done ++ moved.actions) moved.system)
    {moves : List Move} {system : System σ κ} {last : Moved σ κ}
    (run : system.run? moves = some last) {done : List Action} (start : Holds done system) :
    Holds (done ++ last.actions) last.system :=
  run?_invariant_of_allowed (fun _ => True) Holds (fun _ _ _ _ holds _ => kept holds) run
    (fun _ _ => trivial) start

/-- The same with the actions of the run alone. -/
theorem run?_invariant_of_nil (Holds : List Action → System σ κ → Prop)
    (kept : ∀ ⦃done system move moved⦄, Holds done system → Happens system move moved →
      Holds (done ++ moved.actions) moved.system)
    {moves : List Move} {system : System σ κ} {last : Moved σ κ}
    (run : system.run? moves = some last) (start : Holds [] system) :
    Holds last.actions last.system :=
  run?_invariant Holds kept run start

/-- What every turn keeps holds of the thread at the end of every run: requests
and foreign writes leave the thread as it is. -/
theorem run?_invariant_of_turn (Holds : List Action → Sampler κ → Prop)
    (kept : ∀ ⦃done : List Action⦄ ⦃sampler : Sampler κ⦄ ⦃control : Control⦄ ⦃store : σ⦄
      ⦃surroundings : Surroundings⦄ ⦃turn : Turn σ κ⦄, Holds done sampler →
      sampler.Takes control store surroundings turn → Holds (done ++ turn.actions) turn.sampler)
    {moves : List Move} {system : System σ κ} {last : Moved σ κ}
    (run : system.run? moves = some last) (start : Holds [] system.sampler) :
    Holds last.actions last.system.sampler := by
  refine run?_invariant_of_nil (fun done system => Holds done system.sampler) ?_ run start
  intro done system move moved holds happens
  cases happens with
  | request | save =>
      rw [List.append_nil]
      exact holds
  | turn takes => exact kept holds takes

end System

end Magnetometer.Lifecycle
