import Magnetometer.Proofs.Lifecycle.Serial

/-!
# Activating again

What a request to sample comes to when an earlier session may not have come to
its end yet.  The thread sees the phase that is asked for only after a read and
in its sleep.  Two requests between two of its looks, the one to stop and the
one to sample again, leave nothing that it could see, so that the session goes
on and loads nothing.

`reloads_iff` says where the thread has to stand for a load to come first, in
whatever order requests and turns follow.  Where callers wait for one another it
always stands there.
-/

namespace Magnetometer.Lifecycle

/-- Whether a thread that stands at a place has to load before it reads again. -/
def Position.loadsNext : Position → Bool
  | .parked | .loading | .closing | .settling | .gone => true
  | _ => false

/-- No sample of a read that came to its end meanwhile is taken in before a load. -/
def Reloads (later : List Action) : Prop :=
  ∀ front sample back, later = front ++ .ingest sample :: back →
    (∃ outcome, .endRead outcome ∈ front) → ∃ loaded, .load loaded ∈ front

/-- An action among what was done before and after is in the one or in the other. -/
theorem split_cases {did more front back : List Action} {action : Action}
    (split : did ++ more = front ++ action :: back) :
    (∃ rest, did = front ++ action :: rest) ∨
      ∃ middle, front = did ++ middle ∧ more = middle ++ action :: back := by
  rcases List.append_eq_append_iff.mp split with ⟨middle, front_eq, tail⟩ | ⟨middle, did_eq, tail⟩
  · exact .inr ⟨middle, front_eq, tail⟩
  · cases middle with
    | nil =>
        rw [List.append_nil] at did_eq
        exact .inr ⟨[], by rw [did_eq, List.append_nil], tail.symm⟩
    | cons first rest =>
        rw [List.cons_append, List.cons.injEq] at tail
        exact .inl ⟨rest, by rw [did_eq, tail.1]⟩

namespace Reloads

variable {did more : List Action}

theorem of_unread (unread : ∀ outcome, .endRead outcome ∉ did) : Reloads did := by
  rintro front sample back rfl ⟨outcome, ended⟩
  exact absurd (List.mem_append_left _ ended) (unread outcome)

/-- After a load it does not matter what follows. -/
theorem append (reloads : Reloads did) {loaded : Except SensorError StoredOffset}
    (mem : .load loaded ∈ did) : Reloads (did ++ more) := by
  intro front sample back split ended
  rcases split_cases split with ⟨rest, did_eq⟩ | ⟨middle, rfl, -⟩
  · exact reloads front sample rest did_eq ended
  · exact ⟨loaded, List.mem_append_left _ mem⟩

end Reloads

variable {σ κ : Type} [CalibrationStore σ] [EventSink κ]

/-! ## Where a load comes first -/

/-- A thread that has loaded, or has made no read and will load first. -/
inductive LoadsFirst (did : List Action) (position : Position) : Prop
  | loaded {loaded : Except SensorError StoredOffset} (mem : .load loaded ∈ did)
      (reloads : Reloads did)
  | unread (place : position.loadsNext = true) (unread : ∀ outcome, .endRead outcome ∉ did)

namespace LoadsFirst

variable {did : List Action} {position : Position}

omit [CalibrationStore σ] [EventSink κ] in
theorem reloads (first : LoadsFirst did position) : Reloads did := by
  cases first with
  | loaded _ reloads => exact reloads
  | unread _ unread => exact .of_unread unread

theorem turn {sampler : Sampler κ} {control : Control} {store : σ} {surroundings : Surroundings}
    {turn : Turn σ κ} (first : LoadsFirst did sampler.position)
    (takes : sampler.Takes control store surroundings turn) :
    LoadsFirst (did ++ turn.actions) turn.sampler.position := by
  cases first with
  | loaded mem reloads => exact .loaded (List.mem_append_left _ mem) (reloads.append mem)
  | unread early unread =>
      cases takes with
      | begin | leave | park | settle => exact .unread rfl (by simpa using unread)
      | close => exact .unread rfl (by simpa using unread)
      | load =>
          refine .loaded (List.mem_append_right _ List.mem_cons_self) (.of_unread ?_)
          simpa using unread
      | beginRead place | endRead place | proceed place | discard place | publish place
      | fail place | rest place | stop place | serve place | awake place | flush place
      | mark place =>
          rw [place] at early
          contradiction

end LoadsFirst

theorem reloads_of_loadsNext {system : System σ κ} {moves : List Move} {last : Moved σ κ}
    (place : system.sampler.position.loadsNext = true) (run : system.run? moves = some last) :
    Reloads last.actions := by
  have first : LoadsFirst last.actions last.system.sampler.position :=
    System.run?_invariant_of_turn (fun did sampler => LoadsFirst did sampler.position)
      (fun _ _ _ _ _ _ first takes => first.turn takes) run
      (.unread place fun _ => List.not_mem_nil)
  exact first.reloads

/-! ## Where it does not -/

/-- After what was done the thread can come to take in a sample without a load. -/
def GoesOn (did : List Action) (system : System σ κ) : Prop :=
  ∃ moves last, system.run? moves = some last ∧ ¬Reloads (did ++ last.actions)

namespace GoesOn

variable {did : List Action} {system : System σ κ}

/-- What can be come to after a turn can be come to before it. -/
theorem of_turn (surroundings : Surroundings) {turn : Turn σ κ}
    (takes : system.sampler.Takes system.control system.store surroundings turn)
    (onward : GoesOn (did ++ turn.actions)
      (⟨turn.control, turn.sampler, turn.store⟩ : System σ κ)) : GoesOn did system := by
  obtain ⟨moves, last, run, swallowed⟩ := onward
  refine ⟨.turn surroundings :: moves, _, System.run?_cons_eq_some_iff.mpr
    ⟨_, last, System.move?_eq_some_iff.mpr (.turn takes), run, rfl⟩, ?_⟩
  rw [← List.append_assoc]
  exact swallowed

/-- The same for a turn that does nothing to source, store or sink. -/
theorem of_silent (surroundings : Surroundings) {turn : Turn σ κ}
    (takes : system.sampler.Takes system.control system.store surroundings turn)
    (silent : turn.actions = [])
    (onward : GoesOn did (⟨turn.control, turn.sampler, turn.store⟩ : System σ κ)) :
    GoesOn did system := by
  refine of_turn surroundings takes ?_
  rw [silent, List.append_nil]
  exact onward

/-- A sample that was read is taken in. -/
theorem handling {started : UInt64} {sample : Sample} {outcome : Except SensorError Sample}
    (place : system.sampler.position = .handling started (.ok sample))
    (ended : .endRead outcome ∈ did) (unloaded : ∀ loaded, .load loaded ∉ did) :
    GoesOn did system := by
  obtain ⟨event, published⟩ := system.sampler.session.exists_event?_ingest sample 0
  refine of_turn ⟨0, 0, none⟩ (.publish place published) ⟨[], _, rfl, ?_⟩
  intro reloads
  obtain ⟨loaded, mem⟩ := reloads did sample [.emit event] (by simp) ⟨outcome, ended⟩
  exact unloaded loaded mem

/-- The read in progress comes to a sample. -/
theorem reading {started : UInt64} (place : system.sampler.position = .reading started)
    (asked : system.control.isSampling = true) (unloaded : ∀ loaded, .load loaded ∉ did) :
    GoesOn did system := by
  refine of_turn ⟨0, 0, some (.ok .zero)⟩ (.endRead place rfl) ?_
  refine of_turn ⟨0, 0, none⟩ (.proceed rfl asked) ?_
  have ended : .endRead (.ok .zero) ∈ did ++ [.endRead (.ok .zero)] ++ [.check true] := by simp
  refine handling rfl ended ?_
  simpa using unloaded

theorem starting (place : system.sampler.position = .starting)
    (asked : system.control.isSampling = true) (unloaded : ∀ loaded, .load loaded ∉ did) :
    GoesOn did system := by
  refine of_turn ⟨0, 0, none⟩ (.beginRead place) (reading rfl asked ?_)
  simpa using unloaded

/-- A sleep with no flush to serve comes to its end. -/
theorem rested {deadline : Nat} (place : system.sampler.position = .asleep deadline)
    (asked : system.control.isSampling = true) (settled : system.control.flushPending = false)
    (unloaded : ∀ loaded, .load loaded ∉ did) : GoesOn did system :=
  of_silent ⟨0, deadline, none⟩ (.awake place asked settled (Nat.le_refl _)) rfl
    (starting rfl asked unloaded)

/-- A flush is written first, and when its number is marked none is left. -/
theorem asleep {deadline : Nat} (place : system.sampler.position = .asleep deadline)
    (asked : system.control.isSampling = true) (unloaded : ∀ loaded, .load loaded ∉ did) :
    GoesOn did system := by
  cases pending : system.control.flushPending with
  | false => exact rested place asked pending unloaded
  | true =>
      refine of_silent ⟨0, 0, none⟩ (.serve place asked pending) rfl ?_
      refine of_turn ⟨0, 0, none⟩ (.flush rfl) ?_
      refine of_silent ⟨0, 0, none⟩ (.mark rfl) rfl ?_
      -- Nobody asks for another flush, so that none is left.
      refine rested rfl asked ?_ ?_
      · simp [Control.flushPending, Control.serve]
      · simpa using unloaded

theorem marking {deadline target : Nat}
    (place : system.sampler.position = .marking deadline target)
    (asked : system.control.isSampling = true) (unloaded : ∀ loaded, .load loaded ∉ did) :
    GoesOn did system :=
  of_silent ⟨0, 0, none⟩ (.mark place) rfl (asleep rfl asked unloaded)

theorem flushing {deadline target : Nat}
    (place : system.sampler.position = .flushing deadline target)
    (asked : system.control.isSampling = true) (unloaded : ∀ loaded, .load loaded ∉ did) :
    GoesOn did system := by
  refine of_turn ⟨0, 0, none⟩ (.flush place) (marking rfl asked ?_)
  simpa using unloaded

theorem resting {started : UInt64} (place : system.sampler.position = .resting started)
    (asked : system.control.isSampling = true) (unloaded : ∀ loaded, .load loaded ∉ did) :
    GoesOn did system :=
  of_silent ⟨0, 0, none⟩ (.rest place) rfl (asleep rfl asked unloaded)

/-- Whatever a read came to, there is another one after it. -/
theorem handled {started : UInt64} {outcome : Except SensorError Sample}
    (place : system.sampler.position = .handling started outcome)
    (asked : system.control.isSampling = true) (unloaded : ∀ loaded, .load loaded ∉ did) :
    GoesOn did system := by
  cases outcome with
  | ok sample =>
      obtain ⟨event, published⟩ := system.sampler.session.exists_event?_ingest sample 0
      refine of_turn ⟨0, 0, none⟩ (.publish place published) (resting rfl asked ?_)
      simpa using unloaded
  | error error =>
      exact of_silent ⟨0, 0, none⟩ (.fail place) rfl (resting rfl asked unloaded)

theorem checking {started : UInt64} {outcome : Except SensorError Sample}
    (place : system.sampler.position = .checking started outcome)
    (asked : system.control.isSampling = true) (unloaded : ∀ loaded, .load loaded ∉ did) :
    GoesOn did system := by
  refine of_turn ⟨0, 0, none⟩ (.proceed place asked) (handled rfl asked ?_)
  simpa using unloaded

/-- From everywhere in a session that was not found to be over. -/
theorem of_not_loadsNext (asked : system.control.isSampling = true)
    (place : system.sampler.position.loadsNext = false) : GoesOn [] system := by
  have unloaded : ∀ loaded, .load loaded ∉ ([] : List Action) := fun _ => List.not_mem_nil
  cases stands : system.sampler.position with
  | starting => exact starting stands asked unloaded
  | reading started => exact reading stands asked unloaded
  | checking started outcome => exact checking stands asked unloaded
  | handling started outcome => exact handled stands asked unloaded
  | resting started => exact resting stands asked unloaded
  | asleep deadline => exact asleep stands asked unloaded
  | flushing deadline target => exact flushing stands asked unloaded
  | marking deadline target => exact marking stands asked unloaded
  | parked | loading | closing | settling | gone =>
      rw [stands] at place
      contradiction

end GoesOn

/-! ## Writes before loads -/

/-- Nothing was done yet, or the last thing was a write. -/
def WrittenLast (done : List Action) : Prop :=
  done = [] ∨ ∃ before offered, done = before ++ [.persist offered]

/-- Every load but the first one comes right after a write. -/
def WritesFirst (done : List Action) : Prop :=
  ∀ front loaded back, done = front ++ .load loaded :: back → WrittenLast front

/-- Whether a thread that stands at a place has written since its last session. -/
def Position.hasWritten : Position → Bool
  | .parked | .loading | .settling | .gone => true
  | _ => false

/-- Sessions were written before others began, and the last one if it is over. -/
structure Written (done : List Action) (position : Position) : Prop where
  first : WritesFirst done
  last : position.hasWritten = true → WrittenLast done

theorem WritesFirst.append {done more : List Action} (first : WritesFirst done)
    (unloaded : ∀ loaded, .load loaded ∉ more) : WritesFirst (done ++ more) := by
  intro front loaded back split
  rcases split_cases split with ⟨rest, done_eq⟩ | ⟨middle, -, more_eq⟩
  · exact first front loaded rest done_eq
  · exact absurd (by simp [more_eq]) (unloaded loaded)

theorem WritesFirst.load {done : List Action} (first : WritesFirst done)
    (written : WrittenLast done) (loaded : Except SensorError StoredOffset) :
    WritesFirst (done ++ [.load loaded]) := by
  intro front other back split
  rcases split_cases split with ⟨rest, done_eq⟩ | ⟨middle, rfl, tail⟩
  · exact first front other rest done_eq
  · cases middle with
    | nil =>
        rw [List.append_nil]
        exact written
    | cons action rest => simp at tail

theorem Written.turn {done : List Action} {sampler : Sampler κ} {control : Control} {store : σ}
    {surroundings : Surroundings} {turn : Turn σ κ} (written : Written done sampler.position)
    (takes : sampler.Takes control store surroundings turn) :
    Written (done ++ turn.actions) turn.sampler.position := by
  cases takes with
  | begin place | leave place | park place =>
      rw [Sampler.actions_go, List.append_nil]
      exact ⟨written.first, fun _ => written.last (by rw [place]; rfl)⟩
  | settle place =>
      rw [List.append_nil]
      exact ⟨written.first, fun _ => written.last (by rw [place]; rfl)⟩
  | load place => exact ⟨written.first.load (written.last (by rw [place]; rfl)) _, nofun⟩
  | close place =>
      exact ⟨written.first.append (by simp), fun _ => .inr ⟨done, _, rfl⟩⟩
  | beginRead | endRead | proceed | discard | publish | fail | rest | stop | serve | awake
  | flush | mark => exact ⟨written.first.append (by simp), nofun⟩

/-- In every run a session is written before another one begins. -/
theorem writesFirst_of_run? {sensitivity : Sensitivity} {store : σ} {sink : κ}
    {moves : List Move} {last : Moved σ κ}
    (run : (System.new sensitivity store sink).run? moves = some last) :
    WritesFirst last.actions := by
  have start : Written [] .parked := ⟨by simp [WritesFirst], fun _ => .inl rfl⟩
  have written : Written last.actions last.system.sampler.position :=
    System.run?_invariant_of_turn (fun done sampler => Written done sampler.position)
      (fun _ _ _ _ _ _ written takes => written.turn takes) run start
  exact written.first

/-! ## Activating again -/

/-- A driver that is activated when nothing is asked for loads before it takes in
what it reads from then on, whatever follows, if and only if its thread is
outside every session or has found its session to be over.  If there is a load,
the session before it was written first. -/
theorem reloads_iff (sensitivity : Sensitivity) (store : σ) (sink : κ) {moves : List Move}
    {last : Moved σ κ} (run : (System.new sensitivity store sink).run? moves = some last)
    (idle : last.system.control.requested = .idle) :
    ((∀ more next, (last.system.request .activate).run? more = some next →
        Reloads next.actions) ↔ last.system.sampler.position.loadsNext = true) ∧
      ∀ more next, (last.system.request .activate).run? more = some next →
        WritesFirst (last.actions ++ next.actions) := by
  constructor
  · constructor
    · intro reloads
      cases place : last.system.sampler.position.loadsNext with
      | true => rfl
      | false =>
          have asked : (last.system.request .activate).control.isSampling = true := by
            rw [Control.isSampling_eq_true_iff, System.control_request, Control.requested_submit]
          obtain ⟨more, next, later, swallowed⟩ := GoesOn.of_not_loadsNext asked place
          exact absurd (reloads more next later) swallowed
    · intro place more next later
      have requested : (last.system.request .activate).sampler.position.loadsNext = true := place
      exact reloads_of_loadsNext requested later
  · intro more next later
    have held : last.system.control.requested ≠ .shutdown := by
      rw [idle]
      exact nofun
    have whole := System.run?_append_eq_some_iff.mpr ⟨last, _, run,
      System.run?_cons_eq_some_iff.mpr ⟨_, next, System.move?_eq_some_iff.mpr (.request held),
        later, rfl⟩, rfl⟩
    exact writesFirst_of_run? whole

/-- A driver that is deactivated while its thread is in a read. -/
def deactivatedInRead : List Move :=
  [.request .activate] ++ .replicate 3 (.turn ⟨0, 0, none⟩) ++ [.request .deactivate]

/-- The thread has not looked yet, and would not load if the driver were activated
now. -/
theorem reloads_iff_deactivatedInRead :
    ∃ last, (System.new .neutral (MemoryStore.ofStored .empty) ([] : List Event)).run?
        deactivatedInRead = some last ∧
      ¬∀ more next, (last.system.request .activate).run? more = some next →
        Reloads next.actions := by
  refine ⟨_, (Option.some_get rfl).symm, ?_⟩
  intro reloads
  have place := (reloads_iff _ _ _ (Option.some_get rfl).symm rfl).1.mp reloads
  contradiction

/-- Not every activation leads to a load.  While the caller that deactivates the
driver waits, another one activates it again: this ends the wait, and the old
session takes in what its read comes to. -/
theorem not_reloads_of_deactivatedInRead :
    ∃ last next, (System.new .neutral (MemoryStore.ofStored .empty) ([] : List Event)).run?
        deactivatedInRead = some last ∧
      last.system.control.requested = .idle ∧
      Wait.stopped.isOver last.system.control = false ∧
      Wait.stopped.isOver (last.system.request .activate).control = true ∧
      (last.system.request .activate).run? [.turn ⟨0, 0, some (.ok ⟨1, 2, 3⟩)⟩,
        .turn ⟨0, 0, none⟩, .turn ⟨0, 0, none⟩] = some next ∧
      ¬Reloads next.actions := by
  refine ⟨_, _, (Option.some_get rfl).symm, rfl, rfl, rfl, (Option.some_get rfl).symm, ?_⟩
  intro reloads
  obtain ⟨loaded, mem⟩ := reloads [.endRead (.ok ⟨1, 2, 3⟩), .check true] ⟨1, 2, 3⟩ _ rfl
    ⟨_, List.mem_cons_self⟩
  simp at mem

/-- Where every call is made after the one before it has returned, a driver loads
after each activation before it takes in what it reads. -/
theorem Serial.reloads_of_run? {sensitivity : Sensitivity} {store : σ} {sink : κ}
    {moves : List Move} {serial : Serial σ κ} {did : List Action}
    (run : (Serial.new sensitivity store sink).run? moves = some (serial, did))
    (free : serial.call? = none) (idle : serial.system.control.requested = .idle)
    {more : List Lifecycle.Move} {next : Moved σ κ}
    (later : (serial.system.request .activate).run? more = some next) :
    Reloads next.actions := by
  have ordered := (Ordered.new sensitivity store sink).run? run
  have parked : serial.system.sampler.position = .parked := by
    apply ordered.handshake.position_eq_parked (ordered.outside free idle)
    rw [idle]
    exact nofun
  apply reloads_of_loadsNext _ later
  rw [System.sampler_request, parked]
  rfl

end Magnetometer.Lifecycle
