import Magnetometer.Proofs.Lifecycle.Handshake
import Magnetometer.Proofs.Lifecycle.Trace
import Mathlib.Data.List.Induction

/-!
# The phases of the control block

The callers write the phase that is asked for and the state that they see, the
thread writes the phase that it has settled into, each under the lock but none
of them with the others.  `Agrees` reads the first two off the requests so far.
`Inside` reads the third off the looks of the parked thread: it is sampling from
a look that found sampling asked for up to the next look, and only in between
does the thread use the device, the store or the sink.
-/

namespace Magnetometer.Lifecycle

/-! ## What the callers write -/

/-- The phase that is asked for and the state of the driver, as the requests so
far left them. -/
structure Agrees (moves : List Move) (control : Control) : Prop where
  released : control.requested = .shutdown ↔ .request .shutdown ∈ moves
  /-- Up to the request to shut down, the state says whether sampling is asked
  for. -/
  sampling : control.requested ≠ .shutdown →
    (control.state = .sampling ↔ control.requested = .sampling)
  ready : control.state = .ready ↔ .request .activate ∉ moves

theorem Control.state_submit (control : Control) (request : Request) :
    (control.submit request).control.state =
      match request with
      | .activate => if control.isSampling then control.state else .sampling
      | .deactivate => if control.isSampling then .deactivated else control.state
      | .flush | .setDelay _ | .shutdown => control.state := by
  cases request with
  | activate => unfold submit activate; dsimp only; split <;> rfl
  | deactivate => unfold submit deactivate; dsimp only; split <;> rfl
  | flush => unfold submit flush; dsimp only; split <;> rfl
  | setDelay microseconds => unfold submit; dsimp only; split <;> rfl
  | shutdown => rfl

namespace Agrees

variable {moves : List Move} {control : Control}

theorem new : Agrees [] .new where
  released := ⟨nofun, nofun⟩
  sampling := fun _ => ⟨nofun, nofun⟩
  ready := ⟨fun _ => List.not_mem_nil, fun _ => rfl⟩

/-- A block in which nothing that the callers write has changed agrees with one
more move that is no request to activate or to shut down. -/
theorem of_eq {next : Control} {move : Move} (agrees : Agrees moves control)
    (requested_eq : next.requested = control.requested) (state_eq : next.state = control.state)
    (still : move ≠ .request .activate) (held : move ≠ .request .shutdown) :
    Agrees (moves ++ [move]) next where
  released := by simpa [requested_eq, held.symm] using agrees.released
  sampling := by simpa [requested_eq, state_eq] using agrees.sampling
  ready := by simpa [state_eq, still.symm] using agrees.ready

theorem submit (agrees : Agrees moves control) (held : control.requested ≠ .shutdown)
    (request : Request) :
    Agrees (moves ++ [.request request]) (control.submit request).control := by
  have unasked : Move.request .shutdown ∉ moves := mt agrees.released.mpr held
  have sampling_iff := agrees.sampling held
  cases request with
  | activate =>
      refine ⟨?_, fun _ => ?_, ?_⟩
      · simp [Control.requested_submit, unasked]
      · by_cases active : control.requested = .sampling
        · simp [Control.requested_submit, Control.state_submit, Control.isSampling, active,
            sampling_iff.mpr active]
        · simp [Control.requested_submit, Control.state_submit, Control.isSampling, active]
      · by_cases active : control.requested = .sampling
        · simp [Control.state_submit, Control.isSampling, active, sampling_iff.mpr active]
        · simp [Control.state_submit, Control.isSampling, active]
  | deactivate =>
      by_cases active : control.requested = .sampling
      · have unready : control.state ≠ .ready := by simp [sampling_iff.mpr active]
        have activated := mt agrees.ready.mpr unready
        refine ⟨?_, fun _ => ?_, ?_⟩
        · simp [Control.requested_submit, Control.isSampling, active, unasked]
        · simp [Control.requested_submit, Control.state_submit, Control.isSampling, active]
        · simpa [Control.state_submit, Control.isSampling, active] using activated
      · refine agrees.of_eq ?_ ?_ (by simp) (by simp)
        · simp [Control.requested_submit, Control.isSampling, active]
        · simp [Control.state_submit, Control.isSampling, active]
  | flush | setDelay =>
      exact agrees.of_eq (Control.requested_submit _ _) (Control.state_submit _ _) (by simp)
        (by simp)
  | shutdown =>
      refine ⟨?_, fun still => absurd (Control.requested_submit _ _) still, ?_⟩
      · simp [Control.requested_submit]
      · simpa [Control.state_submit] using agrees.ready

end Agrees

variable {σ κ : Type} [CalibrationStore σ] [EventSink κ]

namespace Sampler.Takes

variable {sampler : Sampler κ} {control : Control} {store : σ} {surroundings : Surroundings}
  {turn : Turn σ κ}

/-- Turns leave the state that callers see to the callers. -/
theorem state_eq (takes : sampler.Takes control store surroundings turn) :
    turn.control.state = control.state := by
  cases takes <;> rfl

end Sampler.Takes

/-! ## Runs by their moves -/

namespace System

/-- A run with one more move at its end. -/
theorem run?_concat_eq_some_iff {start : System σ κ} {moves : List Move} {move : Move}
    {last : Moved σ κ} :
    start.run? (moves ++ [move]) = some last ↔
      ∃ middle moved, start.run? moves = some middle ∧ Happens middle.system move moved ∧
        last = ⟨moved.system, middle.actions ++ moved.actions,
          middle.notices ++ moved.notices⟩ := by
  rw [run?_append_eq_some_iff]
  simp only [run?_cons_eq_some_iff, ← move?_eq_some_iff]
  constructor
  · rintro ⟨middle, _, reached, ⟨moved, _, made, stay, rfl⟩, rfl⟩
    cases stay
    exact ⟨middle, moved, reached, made, by simp⟩
  · rintro ⟨middle, moved, reached, made, rfl⟩
    exact ⟨middle, _, reached, ⟨moved, _, made, rfl, rfl⟩, by simp⟩

/-- What every move keeps, with the moves so far, holds at the end of every run. -/
theorem run?_invariant_of_moves {start : System σ κ} (Holds : List Move → System σ κ → Prop)
    (none : Holds [] start)
    (kept : ∀ ⦃before middle move moved⦄, start.run? before = some middle →
      Holds before middle.system → Happens middle.system move moved →
      Holds (before ++ [move]) moved.system)
    {moves : List Move} {last : Moved σ κ} (run : start.run? moves = some last) :
    Holds moves last.system := by
  induction moves using List.reverseRecOn generalizing last with
  | nil =>
      cases run
      exact none
  | append_singleton before move ih =>
      obtain ⟨middle, moved, reached, happens, rfl⟩ := run?_concat_eq_some_iff.mp run
      have holds := kept reached (ih reached) happens
      exact holds

end System

/-- Whatever happens, the block agrees with the requests so far. -/
theorem agrees_of_run? {sensitivity : Sensitivity} {store : σ} {sink : κ} {moves : List Move}
    {last : Moved σ κ} (run : (System.new sensitivity store sink).run? moves = some last) :
    Agrees moves last.system.control := by
  refine System.run?_invariant_of_moves (fun moves system => Agrees moves system.control)
    .new ?_ run
  intro before middle move moved _ agrees happens
  cases happens with
  | request held => exact agrees.submit held _
  | turn takes => exact agrees.of_eq takes.requested_eq takes.state_eq nofun nofun
  | save => exact agrees.of_eq rfl rfl nofun nofun

/-! ## What the thread writes -/

/-- The parked thread looks at what is asked for. -/
def System.Looks (system : System σ κ) : Move → Prop
  | .turn _ => system.sampler.position = .parked
  | .request _ | .save _ => False

/-- The last look of the parked thread found sampling asked for: in the run from
a start there is such a look, and none after it. -/
inductive Inside (start : System σ κ) (moves : List Move) : Prop
  | since {before after : List Move} {look : Move} {middle : Moved σ κ}
      (split : moves = before ++ look :: after) (reached : start.run? before = some middle)
      (looks : middle.system.Looks look) (asked : middle.system.control.requested = .sampling)
      (last : ∀ ⦃front back : List Move⦄ ⦃other : Move⦄ ⦃later : Moved σ κ⦄,
        after = front ++ other :: back → start.run? (before ++ look :: front) = some later →
        ¬later.system.Looks other)

namespace Inside

variable {start : System σ κ} {moves : List Move} {move : Move} {middle : Moved σ κ}

/-- A look settles where the thread is. -/
theorem concat_of_looks (reached : start.run? moves = some middle)
    (looks : middle.system.Looks move) :
    Inside start (moves ++ [move]) ↔ middle.system.control.requested = .sampling := by
  constructor
  · intro inside
    obtain @⟨before, after, look, atLook, split, reachedLook, _, asked, last⟩ := inside
    rcases after.eq_nil_or_concat with rfl | ⟨front, other, rfl⟩
    · obtain ⟨rfl, same⟩ := List.append_inj' split rfl
      rw [reached, Option.some.injEq] at reachedLook
      rwa [reachedLook]
    · rw [List.concat_eq_append, ← List.cons_append, ← List.append_assoc] at split
      obtain ⟨rfl, same⟩ := List.append_inj' split rfl
      rw [List.cons.injEq] at same
      exact absurd (same.1 ▸ looks) (last List.concat_eq_append reached)
  · intro asked
    exact .since rfl reached looks asked (fun front _ _ _ none => by simp at none)

/-- Without a look nothing changes for the thread. -/
theorem concat_of_not_looks (reached : start.run? moves = some middle)
    (unseen : ¬middle.system.Looks move) :
    Inside start (moves ++ [move]) ↔ Inside start moves := by
  constructor
  · intro inside
    obtain @⟨before, after, look, atLook, split, reachedLook, looks, asked, last⟩ := inside
    rcases after.eq_nil_or_concat with rfl | ⟨front, other, rfl⟩
    · obtain ⟨rfl, same⟩ := List.append_inj' split rfl
      rw [reached, Option.some.injEq] at reachedLook
      rw [List.cons.injEq] at same
      exact absurd (by rw [reachedLook, same.1]; exact looks) unseen
    · rw [List.concat_eq_append, ← List.cons_append, ← List.append_assoc] at split
      refine .since (List.append_inj' split rfl).1 reachedLook looks asked ?_
      intro early back between later front_eq
      have split_eq : front.concat other = early ++ between :: (back ++ [other]) := by
        rw [front_eq]
        simp
      exact last split_eq
  · intro inside
    obtain @⟨before, after, look, atLook, rfl, reachedLook, looks, asked, last⟩ := inside
    have split : before ++ look :: after ++ [move] = before ++ look :: (after ++ [move]) := by
      simp
    refine .since split reachedLook looks asked ?_
    intro front back other later after_eq run
    rcases back.eq_nil_or_concat with rfl | ⟨rest, end_, rfl⟩
    · obtain ⟨rfl, same⟩ := List.append_inj' after_eq rfl
      rw [List.cons.injEq] at same
      rw [reached, Option.some.injEq] at run
      rw [← run, ← same.1]
      exact unseen
    · rw [List.concat_eq_append, ← List.cons_append, ← List.append_assoc] at after_eq
      exact last (List.append_inj' after_eq rfl).1 run

end Inside

namespace System.Happens

variable {system : System σ κ} {move : Move} {moved : Moved σ κ}

/-- A look settles into the phase that it finds asked for. -/
theorem acknowledged_of_looks (happens : system.Happens move moved) (looks : system.Looks move) :
    moved.system.control.acknowledged = system.control.requested := by
  cases happens with
  | request | save => exact looks.elim
  | turn takes =>
      change system.sampler.position = .parked at looks
      cases takes with
      | begin | leave | park => rfl
      | load place | beginRead place | endRead place | proceed place | discard place
      | publish place | fail place | rest place | stop place | serve place | awake place
      | flush place | mark place | close place | settle place =>
          rw [place] at looks
          contradiction

/-- Nothing else settles into a phase. -/
theorem acknowledged_of_not_looks (happens : system.Happens move moved)
    (unseen : ¬system.Looks move) :
    moved.system.control.acknowledged = system.control.acknowledged := by
  cases happens with
  | request => exact Control.acknowledged_submit _ _
  | save => rfl
  | turn takes =>
      cases takes with
      | begin place | leave place | park place => exact absurd place unseen
      | _ => rfl

end System.Happens

/-- The thread has settled into sampling from a look that found it asked for up to
its next look. -/
theorem acknowledged_iff_inside {sensitivity : Sensitivity} {store : σ} {sink : κ}
    {moves : List Move} {last : Moved σ κ}
    (run : (System.new sensitivity store sink).run? moves = some last) :
    last.system.control.acknowledged = .sampling ↔
      Inside (System.new sensitivity store sink) moves := by
  refine System.run?_invariant_of_moves (fun moves system =>
    system.control.acknowledged = .sampling ↔ Inside (System.new sensitivity store sink) moves)
    ?_ ?_ run
  · constructor
    · exact nofun
    · rintro ⟨split, -⟩
      simp at split
  · intro before middle move moved reached holds happens
    by_cases looks : middle.system.Looks move
    · rw [happens.acknowledged_of_looks looks, Inside.concat_of_looks reached looks]
    · rw [happens.acknowledged_of_not_looks looks, Inside.concat_of_not_looks reached looks]
      exact holds

/-- A turn outside a session uses nothing and changes nothing but the phase that
the thread has settled into. -/
theorem Sampler.Takes.of_not_inSession {sampler : Sampler κ} {control : Control} {store : σ}
    {surroundings : Surroundings} {turn : Turn σ κ}
    (takes : sampler.Takes control store surroundings turn)
    (outside : sampler.position.inSession = false) :
    turn.actions = [] ∧ turn.sampler.session = sampler.session ∧
      turn.sampler.sink = sampler.sink ∧ turn.store = store := by
  cases takes with
  | begin | leave | park => exact ⟨rfl, rfl, rfl, rfl⟩
  | load place | beginRead place | endRead place | proceed place | discard place | publish place
  | fail place | rest place | stop place | serve place | awake place | flush place | mark place
  | close place | settle place =>
      rw [place] at outside
      contradiction

/-! ## The end of a driver -/

/-- A thread that is gone does nothing any more, whatever else happens. -/
theorem System.run?_of_gone {system : System σ κ} {moves : List Move} {last : Moved σ κ}
    (gone : system.sampler.position = .gone) (run : system.run? moves = some last) :
    last.actions = [] ∧ last.system.sampler = system.sampler := by
  refine System.run?_invariant_of_nil (fun done now => done = [] ∧ now.sampler = system.sampler)
    ?_ run ⟨rfl, rfl⟩
  rintro done now move moved ⟨rfl, same⟩ happens
  cases happens with
  | request | save => exact ⟨rfl, same⟩
  | turn takes =>
      have place := (congrArg Sampler.position same).trans gone
      exact absurd (Sampler.turn?_eq_some_iff.mpr takes) (by simp [Sampler.turn?, place])

/-- The phase of a driver that is shut down stays. -/
theorem System.requested_of_run? {system : System σ κ} {moves : List Move} {last : Moved σ κ}
    (released : system.control.requested = .shutdown) (run : system.run? moves = some last) :
    last.system.control.requested = .shutdown := by
  refine System.run?_invariant_of_nil (fun _ now => now.control.requested = .shutdown) ?_ run
    released
  intro done now move moved released happens
  cases happens with
  | request held => exact absurd released held
  | turn takes => exact takes.requested_eq.trans released
  | save => exact released

/-- The control block of a driver that was made and to which moves then happened,
against these moves and what the thread did and can do next. -/
structure Coordinated (sensitivity : Sensitivity) (start : System σ κ) (moves : List Move)
    (last : Moved σ κ) : Prop where
  /-- Until the driver is shut down, it shows sampling exactly while sampling is
  asked for. -/
  sampling_iff : .request .shutdown ∉ moves →
    (last.system.control.state = .sampling ↔ last.system.control.requested = .sampling)
  /-- It shows that it was never activated only as long as it never was. -/
  ready : last.system.control.state = .ready → .request .activate ∉ moves
  /-- The thread has settled into sampling exactly from a look that found it asked
  for up to its next look. -/
  acknowledged_iff : last.system.control.acknowledged = .sampling ↔ Inside start moves
  /-- Outside that time it uses neither device nor store nor sink and takes no
  sample into its session. -/
  outside : ¬Inside start moves → ∀ ⦃surroundings : Surroundings⦄ ⦃moved : Moved σ κ⦄,
    last.system.turn? surroundings = some moved →
    moved.actions = [] ∧ moved.system.sampler.session = last.system.sampler.session ∧
      moved.system.sampler.sink = last.system.sampler.sink ∧
      moved.system.store = last.system.store
  /-- It has settled into the shutdown only after the request for it, when all its
  sessions have come to their final write, and then it is done for good. -/
  released : last.system.control.acknowledged = .shutdown →
    .request .shutdown ∈ moves ∧
      Blocks (.new sensitivity) last.actions last.system.sampler.session ∧
      ∀ ⦃more : List Move⦄ ⦃later : Moved σ κ⦄, last.system.run? more = some later →
        later.actions = [] ∧ later.system.sampler = last.system.sampler
  /-- The request to shut down is never taken back. -/
  held : last.system.control.requested = .shutdown →
    ∀ ⦃more : List Move⦄ ⦃later : Moved σ κ⦄, last.system.run? more = some later →
      later.system.control.requested = .shutdown

/-- Whatever any number of callers ask for, whether they wait for it or not, and
whenever the thread takes its turns, the control block is coordinated. -/
theorem coordinated_of_run? (sensitivity : Sensitivity) (store : σ) (sink : κ)
    {moves : List Move} {last : Moved σ κ}
    (run : (System.new sensitivity store sink).run? moves = some last) :
    Coordinated sensitivity (System.new sensitivity store sink) moves last := by
  have agrees := agrees_of_run? run
  have handshake : Handshake last.system.control last.system.sampler.position :=
    Handshake.new.run? run
  have inside_iff := acknowledged_iff_inside run
  constructor
  case sampling_iff =>
    intro unreleased
    exact agrees.sampling (mt agrees.released.mp unreleased)
  case ready => exact agrees.ready.mp
  case acknowledged_iff => exact inside_iff
  case outside =>
    intro outside surroundings moved taken
    obtain ⟨turn, takes, rfl⟩ := System.turn?_eq_some_iff.mp taken
    have place : last.system.sampler.position.inSession = false := by
      rw [← Bool.not_eq_true]
      exact fun inSession => outside (inside_iff.mp (handshake.session inSession))
    exact takes.of_not_inSession place
  case released =>
    intro settled
    have gone := handshake.released.mp settled
    obtain ⟨finished, part, middle, split, blocks, stands⟩ := traced_of_run? run
    rw [gone] at stands
    obtain ⟨rfl, same⟩ := stands
    refine ⟨agrees.released.mp (handshake.asked gone), ?_, fun more later runs =>
      System.run?_of_gone gone runs⟩
    rw [split, List.append_nil, same]
    exact blocks
  case held =>
    intro released more later runs
    exact System.requested_of_run? released runs

/-- A driver that is shut down in a read: its thread reads, writes and parks
before it looks again and is gone. -/
theorem coordinated_of_run?_shutdownInRead :
    ∃ last, (System.new .neutral (MemoryStore.ofStored .empty) ([] : List Event)).run?
        ([.request .activate] ++ .replicate 3 (.turn ⟨0, 0, none⟩) ++ [.request .shutdown] ++
          [.turn ⟨5, 0, some (.ok ⟨1, 2, 3⟩)⟩] ++ .replicate 4 (.turn ⟨7, 0, none⟩)) =
        some last ∧
      last.system.control.acknowledged = .shutdown ∧
      Coordinated .neutral (System.new .neutral (MemoryStore.ofStored .empty) ([] : List Event))
        ([.request .activate] ++ .replicate 3 (.turn ⟨0, 0, none⟩) ++ [.request .shutdown] ++
          [.turn ⟨5, 0, some (.ok ⟨1, 2, 3⟩)⟩] ++ .replicate 4 (.turn ⟨7, 0, none⟩)) last :=
  ⟨_, (Option.some_get rfl).symm, rfl, coordinated_of_run? _ _ _ (Option.some_get rfl).symm⟩

end Magnetometer.Lifecycle
