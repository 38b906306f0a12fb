import Magnetometer.Proofs.Lifecycle.Unflushed

/-!
# Releasing a driver

A driver is released by the last of its callers, either straight away or after a
call to stop sampling.  The thread sees only that sampling is no longer asked
for: on its way out of a session it does the same for both, and outside it does
nothing.  On that way it writes what the session has, once.
-/

namespace Magnetometer.Lifecycle

variable {σ κ : Type} [CalibrationStore σ] [EventSink κ]

/-! ## Callers that share a driver -/

/-- A driver at work with what its callers wait for. -/
structure Shared (σ κ : Type) where
  system : System σ κ
  /-- The waits of the calls that have not returned. -/
  waits : List Wait

namespace Shared

/-- A driver that was just made. -/
def new (sensitivity : Sensitivity) (store : σ) (sink : κ) : Shared σ κ :=
  ⟨.new sensitivity store sink, []⟩

/-- What may happen next.  Any number of calls may be under way; a call that has
to wait returns when its wait is over. -/
inductive Step (shared : Shared σ κ) : Shared σ κ → Prop
  | call {request : Request} (held : shared.system.control.requested ≠ .shutdown) :
      Step shared ⟨shared.system.request request,
        (shared.system.control.submit request).wait?.toList ++ shared.waits⟩
  | ret {wait : Wait} (pending : wait ∈ shared.waits)
      (ended : wait.isOver shared.system.control = true) :
      Step shared ⟨shared.system, shared.waits.erase wait⟩
  | turn {surroundings : Surroundings} {turn : Turn σ κ}
      (takes : shared.system.sampler.Takes shared.system.control shared.system.store
        surroundings turn) :
      Step shared ⟨⟨turn.control, turn.sampler, turn.store⟩, shared.waits⟩
  | save {offset : HardIronOffset} :
      Step shared
        ⟨{ shared.system with
            store := (CalibrationStore.save shared.system.store offset).store }, shared.waits⟩

/-- What can come of a driver whose calls return only when their waits are over. -/
def Reachable (sensitivity : Sensitivity) (store : σ) (sink : κ) (shared : Shared σ κ) : Prop :=
  Relation.ReflTransGen Step (new sensitivity store sink) shared

/-- What holds of every reachable driver. -/
structure Sound (shared : Shared σ κ) : Prop where
  handshake : Handshake shared.system.control shared.system.sampler.position
  /-- When sampling is no longer asked for, a thread that has not settled yet is
  waited for. -/
  waited : shared.system.control.requested = .idle →
    shared.system.control.acknowledged = .sampling → .stopped ∈ shared.waits

theorem Sound.step {shared next : Shared σ κ} (sound : Sound shared) (step : Step shared next) :
    Sound next := by
  cases step with
  | @call request held =>
      refine ⟨sound.handshake.submit held request, fun asked settled => ?_⟩
      change (shared.system.control.submit request).control.requested = .idle at asked
      change (shared.system.control.submit request).control.acknowledged = .sampling at settled
      rw [Control.requested_submit] at asked
      rw [Control.acknowledged_submit] at settled
      cases request with
      | activate | shutdown => contradiction
      | deactivate =>
          by_cases sampling : shared.system.control.isSampling = true
          · simp [Control.submit, sampling]
          · rw [if_neg sampling] at asked
            exact List.mem_append_right _ (sound.waited asked settled)
      | flush | setDelay => exact List.mem_append_right _ (sound.waited asked settled)
  | @ret wait pending ended =>
      refine ⟨sound.handshake, fun asked settled => ?_⟩
      have other : wait ≠ .stopped := by
        rintro rfl
        simp only at asked settled
        simp [Wait.isOver, asked, settled] at ended
      exact (List.mem_erase_of_ne other.symm).mpr (sound.waited asked settled)
  | turn takes =>
      refine ⟨sound.handshake.turn takes, fun asked settled => ?_⟩
      have before := takes.requested_eq.symm.trans asked
      rcases takes.acknowledged_eq with same | same
      · have wrong := before.symm.trans (same.symm.trans settled)
        contradiction
      · exact sound.waited before (same.symm.trans settled)
  | save => exact ⟨sound.handshake, sound.waited⟩

theorem Reachable.sound {sensitivity : Sensitivity} {store : σ} {sink : κ} {shared : Shared σ κ}
    (reachable : Reachable sensitivity store sink shared) : Sound shared := by
  induction reachable with
  | refl => exact ⟨.new, nofun⟩
  | tail _ step sound => exact sound.step step

end Shared

/-! ## A thread on its way out -/

omit [CalibrationStore σ] [EventSink κ] in
theorem Sampler.eq_of_parts {s t : Sampler κ} (position_eq : s.position = t.position)
    (session_eq : s.session = t.session) (sink_eq : s.sink = t.sink) : s = t := by
  cases s
  cases t
  cases position_eq
  cases session_eq
  cases sink_eq
  rfl

namespace Sampler.Takes

variable {sampler : Sampler κ} {control : Control} {store : σ} {surroundings : Surroundings}
  {turn : Turn σ κ}

/-- Turns leave the delay to the callers. -/
theorem delay_eq (takes : sampler.Takes control store surroundings turn) :
    turn.control.delay = control.delay := by
  cases takes <;> rfl

/-- Outside a session, and not asked to sample, the thread keeps what it has. -/
theorem kept_of_outside (takes : sampler.Takes control store surroundings turn)
    (outside : sampler.position.inSession = false) (asked : control.requested ≠ .sampling) :
    turn.sampler.session = sampler.session ∧ turn.sampler.sink = sampler.sink := by
  cases takes with
  | begin place sampling => exact absurd sampling asked
  | leave | park => exact ⟨rfl, rfl⟩
  | load place | beginRead place | endRead place | proceed place | discard place | publish place
  | fail place | rest place | stop place | serve place | awake place | flush place | mark place
  | close place | settle place =>
      rw [place] at outside
      contradiction

/-- In a session it makes no difference to a thread that is not to sample what
else is asked for. -/
theorem of_stopped {other : Control} (takes : sampler.Takes control store surroundings turn)
    (inside : sampler.position.inSession = true) (stopped : control.isSampling = false)
    (stoppedToo : other.isSampling = false) (delay_eq : other.delay = control.delay) :
    ∃ next, sampler.Takes other store surroundings
      ⟨next, turn.sampler, turn.store, turn.actions, turn.notices⟩ := by
  cases takes with
  | begin place | leave place | park place =>
      rw [place] at inside
      contradiction
  | proceed _ asked | serve _ asked | awake _ asked =>
      rw [stopped] at asked
      contradiction
  | load place => exact ⟨_, .load place⟩
  | beginRead place => exact ⟨_, .beginRead place⟩
  | endRead place given => exact ⟨_, .endRead place given⟩
  | discard place => exact ⟨_, .discard place stoppedToo⟩
  | publish place published => exact ⟨_, .publish place published⟩
  | fail place => exact ⟨_, .fail place⟩
  | @rest started place =>
      have same : deadline other surroundings started = deadline control surroundings started := by
        rw [deadline, delay_eq, deadline]
      have rests : sampler.Takes other store surroundings
          (sampler.go other store [] (.asleep (deadline other surroundings started))) :=
        .rest place
      rw [same] at rests
      exact ⟨_, rests⟩
  | stop place => exact ⟨_, .stop place stoppedToo⟩
  | flush place => exact ⟨_, .flush place⟩
  | mark place => exact ⟨_, .mark place⟩
  | close place => exact ⟨_, .close place⟩
  | settle place => exact ⟨_, .settle place⟩

end Sampler.Takes

namespace System

/-- What the surroundings give to the turn of a move. -/
def surroundings? : Move → Option Surroundings
  | .turn surroundings => some surroundings
  | _ => none

/-- Whether a move is a turn or the release of a driver. -/
def IsReleasing (move : Move) : Prop :=
  (∃ surroundings, move = .turn surroundings) ∨ move = .request .shutdown

/-- A driver whose thread is outside every session and not asked for one. -/
structure Out (system : System σ κ) : Prop where
  outside : system.sampler.position.inSession = false
  asked : system.control.requested ≠ .sampling

/-- Once the thread is out, releasing the driver comes to nothing more. -/
theorem Out.run? {system : System σ κ} (out : system.Out) {moves : List Move}
    (releasing : ∀ move ∈ moves, IsReleasing move) {last : Moved σ κ}
    (run : system.run? moves = some last) :
    last.actions = [] ∧ last.system.store = system.store ∧
      last.system.sampler.session = system.sampler.session ∧
      last.system.sampler.sink = system.sampler.sink := by
  have kept : last.system.Out ∧ [] ++ last.actions = [] ∧ last.system.store = system.store ∧
      last.system.sampler.session = system.sampler.session ∧
      last.system.sampler.sink = system.sampler.sink := by
    refine run?_invariant_of_allowed IsReleasing
      (fun done now => now.Out ∧ done = [] ∧ now.store = system.store ∧
        now.sampler.session = system.sampler.session ∧ now.sampler.sink = system.sampler.sink)
      ?_ run releasing ⟨out, rfl, rfl, rfl, rfl⟩
    rintro done now move moved ⟨outNow, rfl, store_eq, session_eq, sink_eq⟩ allowed happens
    cases happens with
    | request held =>
        rcases allowed with ⟨surroundings, eq⟩ | eq
        · contradiction
        · cases eq
          exact ⟨⟨outNow.outside, nofun⟩, rfl, store_eq, session_eq, sink_eq⟩
    | turn takes =>
        obtain ⟨outside, nothing, kept⟩ := takes.of_outside outNow.outside outNow.asked
        obtain ⟨session, sink⟩ := takes.kept_of_outside outNow.outside outNow.asked
        refine ⟨⟨outside, fun sampling => outNow.asked ?_⟩, nothing, kept.trans store_eq,
          session.trans session_eq, sink.trans sink_eq⟩
        exact takes.requested_eq.symm.trans sampling
    | save =>
        rcases allowed with ⟨surroundings, eq⟩ | eq
        · contradiction
        · contradiction
  exact kept.2

/-- Two drivers of one thread that is not to sample, whatever else is asked for. -/
structure Alike (system other : System σ κ) : Prop where
  sampler_eq : other.sampler = system.sampler
  store_eq : other.store = system.store
  delay_eq : other.control.delay = system.control.delay
  stopped : system.control.isSampling = false
  stoppedToo : other.control.isSampling = false

omit [CalibrationStore σ] [EventSink κ] in
theorem asked_of_stopped {control : Control} (stopped : control.isSampling = false) :
    control.requested ≠ .sampling := by
  intro asked
  rw [control.isSampling_eq_true_iff.mpr asked] at stopped
  contradiction

/-- In a session the two threads take the same turn. -/
theorem Alike.turn {system other : System σ κ} (alike : Alike system other)
    (inside : system.sampler.position.inSession = true) {surroundings : Surroundings}
    {moved : Moved σ κ} (made : system.turn? surroundings = some moved) :
    ∃ next, other.turn? surroundings = some next ∧ next.actions = moved.actions ∧
      Alike moved.system next.system := by
  obtain ⟨turn, takes, rfl⟩ := turn?_eq_some_iff.mp made
  obtain ⟨control, takesToo⟩ :=
    takes.of_stopped inside alike.stopped alike.stoppedToo alike.delay_eq
  rw [← alike.sampler_eq, ← alike.store_eq] at takesToo
  refine ⟨_, turn?_eq_some_iff.mpr ⟨_, takesToo, rfl⟩, rfl, rfl, rfl, ?_, ?_, ?_⟩
  · exact takesToo.delay_eq.trans (alike.delay_eq.trans takes.delay_eq.symm)
  · rw [Control.isSampling, takes.requested_eq]
    exact alike.stopped
  · rw [Control.isSampling, takesToo.requested_eq]
    exact alike.stoppedToo

omit [CalibrationStore σ] [EventSink κ] in
theorem isReleasing_of_mem_turns {turns : List Surroundings} :
    ∀ move ∈ turns.map Move.turn, IsReleasing move := by
  intro move mem
  obtain ⟨surroundings, -, rfl⟩ := List.mem_map.mp mem
  exact .inl ⟨surroundings, rfl⟩

omit [CalibrationStore σ] [EventSink κ] in
@[simp]
theorem filterMap_surroundings?_map_turn (turns : List Surroundings) :
    (turns.map Move.turn).filterMap surroundings? = turns := by
  rw [List.filterMap_map]
  exact List.filterMap_some

omit [CalibrationStore σ] [EventSink κ] in
/-- The thread cannot tell a driver that is stopped from one that is released. -/
theorem alike_request {system : System σ κ} (held : system.control.requested ≠ .shutdown) :
    Alike (system.request .shutdown) (system.request .deactivate) := by
  constructor
  case sampler_eq => rfl
  case store_eq => rfl
  case delay_eq =>
    change system.control.deactivate.delay = system.control.delay
    unfold Control.deactivate
    split <;> rfl
  case stopped => rfl
  case stoppedToo =>
    rw [control_request, Control.isSampling, system.control.requested_deactivate held]
    rfl

/-- Whether a driver is released during the way out or was before, its thread
does the same once it is out. -/
theorem Alike.run? {env : List Surroundings} {moves : List Move} {system other : System σ κ}
    (alike : Alike system other) (releasing : ∀ move ∈ moves, IsReleasing move)
    {turns : List Surroundings} {one two : Moved σ κ} (early : turns <+: env)
    (earlyToo : moves.filterMap surroundings? <+: env)
    (run : system.run? (turns.map .turn) = some one)
    (runToo : other.run? moves = some two)
    (out : one.system.sampler.position.inSession = false)
    (outToo : two.system.sampler.position.inSession = false) :
    two.actions = one.actions ∧ two.system.store = one.system.store ∧
      two.system.sampler.session = one.system.sampler.session ∧
      two.system.sampler.sink = one.system.sampler.sink := by
  induction moves generalizing system other turns env one two with
  | nil =>
      cases runToo
      rw [alike.sampler_eq] at outToo
      obtain ⟨nothing, store_eq, session_eq, sink_eq⟩ :=
        Out.run? ⟨outToo, asked_of_stopped alike.stopped⟩ isReleasing_of_mem_turns run
      rw [nothing, store_eq, session_eq, sink_eq, alike.sampler_eq]
      exact ⟨rfl, alike.store_eq, rfl, rfl⟩
  | cons move rest ih =>
      by_cases inside : system.sampler.position.inSession = true
      · obtain ⟨releasingFirst, releasingRest⟩ := List.forall_mem_cons.mp releasing
        obtain ⟨first, final, made, runs, rfl⟩ := run?_cons_eq_some_iff.mp runToo
        rcases releasingFirst with ⟨surroundings, rfl⟩ | rfl
        · -- Both threads take a turn in the same surroundings.
          obtain ⟨tail, whole⟩ := earlyToo
          cases turns with
          | nil =>
              cases run
              rw [inside] at out
              contradiction
          | cons given turns =>
              rw [← whole] at early
              obtain ⟨rfl, earlyRest⟩ := List.cons_prefix_cons.mp early
              obtain ⟨next, ended, taken, goes, rfl⟩ := run?_cons_eq_some_iff.mp run
              obtain ⟨same, takenToo, actions_eq, alikeNext⟩ := alike.turn inside taken
              obtain rfl := Option.some.inj (made.symm.trans takenToo)
              obtain ⟨later_eq, kept⟩ := ih alikeNext releasingRest earlyRest
                (List.prefix_append _ tail) goes runs out outToo
              rw [actions_eq, later_eq]
              exact ⟨rfl, kept⟩
        · cases move?_eq_some_iff.mp made with
          | request held =>
              have alikeReleased : Alike system (other.request .shutdown) :=
                ⟨alike.sampler_eq, alike.store_eq, alike.delay_eq, alike.stopped, rfl⟩
              exact ih alikeReleased releasingRest early earlyToo run runs out outToo
      · have outside := Bool.eq_false_of_not_eq_true inside
        obtain ⟨nothing, store_eq, session_eq, sink_eq⟩ :=
          Out.run? ⟨outside, asked_of_stopped alike.stopped⟩ isReleasing_of_mem_turns run
        rw [← alike.sampler_eq] at outside
        obtain ⟨nothingToo, storeToo, sessionToo, sinkToo⟩ :=
          Out.run? ⟨outside, asked_of_stopped alike.stoppedToo⟩ releasing runToo
        rw [nothing, store_eq, session_eq, sink_eq, nothingToo, storeToo, sessionToo, sinkToo,
          alike.sampler_eq]
        exact ⟨rfl, alike.store_eq, rfl, rfl⟩

end System

/-! ## The writes on the way out -/

/-- The writes of a trace, with the offset that each of them offers. -/
def writes (done : List Action) : List (Option HardIronOffset) :=
  done.filterMap fun
    | .persist offered => some offered
    | _ => none

/-- Whether a thread at a place still has to make the final write of a session. -/
def Position.owesFinal : Position → Bool
  | .parked | .settling | .gone => false
  | _ => true

/-- The writes that are under way when a thread stands at a place. -/
def Sampler.underWay (sampler : Sampler κ) : List (Option HardIronOffset) :=
  match sampler.position with
  | .flushing _ _ => [Sampler.offered sampler.session]
  | _ => []

namespace Sampler.Takes

variable {sampler : Sampler κ} {control : Control} {store : σ} {surroundings : Surroundings}
  {turn : Turn σ κ}

/-- A turn on the way out of a session makes the write that is under way or none,
or it makes the final one. -/
theorem owing (takes : sampler.Takes control store surroundings turn)
    (stopped : control.isSampling = false) (owes : sampler.position.owesFinal = true) :
    turn.sampler.position.owesFinal = true ∧
        writes turn.actions ++ turn.sampler.underWay = sampler.underWay ∨
      turn.sampler.position.owesFinal = false ∧
        turn.actions = [.persist (offered turn.sampler.session)] ∧ sampler.underWay = [] := by
  unfold underWay
  cases takes with
  | begin place | leave place | park place | settle place =>
      rw [place] at owes
      contradiction
  | proceed _ asked | serve _ asked | awake _ asked =>
      rw [stopped] at asked
      contradiction
  | close place =>
      rw [place]
      exact .inr ⟨rfl, rfl, rfl⟩
  | load place | beginRead place | endRead place | discard place | publish place | fail place
  | rest place | stop place | flush place | mark place =>
      rw [place]
      exact .inl ⟨rfl, rfl⟩

/-- A thread that made its final write does nothing unless it is asked to sample. -/
theorem settled (takes : sampler.Takes control store surroundings turn)
    (stopped : control.isSampling = false) (owes : sampler.position.owesFinal = false) :
    turn.sampler.position.owesFinal = false ∧ turn.actions = [] ∧ turn.store = store ∧
      turn.sampler.session = sampler.session := by
  cases takes with
  | begin _ asked =>
      rw [control.isSampling_eq_true_iff.mpr asked] at stopped
      contradiction
  | leave | park | settle => exact ⟨rfl, rfl, rfl, rfl⟩
  | load place | beginRead place | endRead place | proceed place | discard place | publish place
  | fail place | rest place | stop place | serve place | awake place | flush place | mark place
  | close place =>
      rw [place] at owes
      contradiction

end Sampler.Takes

namespace System

omit [CalibrationStore σ] [EventSink κ] in
theorem inSession_of_owesFinal {position : Position} (owes : position.owesFinal = true) :
    position.inSession = true := by
  cases position <;> first | rfl | contradiction

/-- On its way out of a session the thread ends with one final write, and before
it there is at most the one that was under way. -/
theorem writes_of_run? {system : System σ κ} (stopped : system.control.isSampling = false)
    {turns : List Surroundings} {last : Moved σ κ}
    (run : system.run? (turns.map .turn) = some last)
    (out : last.system.sampler.position.inSession = false) :
    if system.sampler.position.owesFinal then
      ∃ front, last.actions = front ++ [.persist (Sampler.offered last.system.sampler.session)] ∧
        writes front = system.sampler.underWay
    else
      last.actions = [] ∧ last.system.store = system.store ∧
        last.system.sampler.session = system.sampler.session := by
  induction turns generalizing system last with
  | nil =>
      cases run
      split
      · rename_i owes
        rw [inSession_of_owesFinal owes] at out
        contradiction
      · exact ⟨rfl, rfl, rfl⟩
  | cons surroundings turns ih =>
      obtain ⟨first, final, made, runs, rfl⟩ := run?_cons_eq_some_iff.mp run
      cases move?_eq_some_iff.mp made with
      | @turn _ turn takes =>
          have stoppedNext : turn.control.isSampling = false := by
            rw [Control.isSampling, takes.requested_eq]
            exact stopped
          have rest := ih stoppedNext runs out
          split
          · rename_i owes
            rcases takes.owing stopped owes with ⟨owesNext, joined⟩ | ⟨settled, written, none⟩
            · rw [if_pos owesNext] at rest
              obtain ⟨front, final_eq, writes_eq⟩ := rest
              refine ⟨turn.actions ++ front, ?_, ?_⟩
              · rw [List.append_assoc, ← final_eq]
              · rw [← joined, ← writes_eq]
                exact List.filterMap_append
            · rw [if_neg (by rw [settled]; exact Bool.false_ne_true)] at rest
              obtain ⟨nothing, -, session_eq⟩ := rest
              refine ⟨[], ?_, none.symm⟩
              rw [written, nothing, session_eq]
              rfl
          · rename_i owes
            obtain ⟨settled, nothing, store_eq, session_eq⟩ :=
              takes.settled stopped (Bool.eq_false_of_not_eq_true owes)
            rw [if_neg (by rw [settled]; exact Bool.false_ne_true)] at rest
            obtain ⟨nothingMore, storeRest, sessionRest⟩ := rest
            refine ⟨?_, storeRest.trans store_eq, sessionRest.trans session_eq⟩
            rw [nothing, nothingMore]
            rfl

/-! ## Calls that end a driver -/

/-- A call on a driver that has no other caller, with the turns that the thread
takes before it returns. -/
def Calls (system : System σ κ) (request : Request) (turns : List Surroundings)
    (last : Moved σ κ) : Prop :=
  system.run? (.request request :: turns.map .turn) = some last ∧
    ∀ wait ∈ (system.control.submit request).wait?, wait.isOver last.system.control = true

theorem Calls.run? {system : System σ κ} {request : Request} {turns : List Surroundings}
    {last : Moved σ κ} (calls : system.Calls request turns last) :
    system.control.requested ≠ .shutdown ∧
      (system.request request).run? (turns.map .turn) = some last := by
  obtain ⟨first, final, made, runs, rfl⟩ := run?_cons_eq_some_iff.mp calls.1
  cases move?_eq_some_iff.mp made with
  | request held => exact ⟨held, runs⟩

/-- A driver that was released has a thread that is gone. -/
theorem Calls.gone {system : System σ κ} {turns : List Surroundings} {last : Moved σ κ}
    (calls : system.Calls .shutdown turns last)
    (handshake : Handshake system.control system.sampler.position) :
    last.system.sampler.position = .gone := by
  have ended := calls.2 .released rfl
  exact (handshake.run? calls.1).released.mp (of_decide_eq_true ended)

end System

/-- What the release of a driver does on the way out, and what it leaves behind. -/
structure Releases (start : System σ κ) (last : Moved σ κ) : Prop where
  /-- A session ends with one final write, and before it there is at most the one
  that was under way. -/
  durable : start.sampler.position.owesFinal = true →
    ∃ front, last.actions = front ++ [.persist (Sampler.offered last.system.sampler.session)] ∧
      writes front = start.sampler.underWay
  /-- Without a session nothing is done. -/
  unstarted : start.sampler.position.owesFinal = false →
    last.actions = [] ∧ last.system.store = start.store
  /-- Nothing is done for a driver that does not sample. -/
  idle : start.control.isSampling = false →
    last.actions = [] ∧ last.system.store = start.store
  /-- From then on the thread takes no turn. -/
  gone : ∀ surroundings, last.system.turn? surroundings = none

theorem System.Calls.releases {system : System σ κ} {turns : List Surroundings} {last : Moved σ κ}
    (calls : system.Calls .shutdown turns last)
    (handshake : Handshake system.control system.sampler.position)
    (outside : system.control.isSampling = false → system.sampler.position.owesFinal = false) :
    Releases system last := by
  have gone := calls.gone handshake
  have out : last.system.sampler.position.inSession = false := by
    rw [gone]
    rfl
  have stopped : (system.request .shutdown).control.isSampling = false := rfl
  have written := writes_of_run? stopped calls.run?.2 out
  rw [sampler_request, store_request] at written
  have unstarted : system.sampler.position.owesFinal = false →
      last.actions = [] ∧ last.system.store = system.store := by
    intro settled
    rw [settled, if_neg Bool.false_ne_true] at written
    exact ⟨written.1, written.2.1⟩
  constructor
  case durable =>
    intro owes
    rwa [if_pos owes] at written
  case unstarted => exact unstarted
  case idle => exact fun idle => unstarted (outside idle)
  case gone =>
    intro surroundings
    have none : last.system.sampler.turn? last.system.control last.system.store surroundings =
        none := Sampler.turn?_eq_none_iff.mpr (.gone gone)
    rw [turn?, none, Option.map_none]

namespace Shared

omit [CalibrationStore σ] [EventSink κ] in
/-- When no call is under way, a driver that does not sample has a thread that is
outside every session. -/
theorem Sound.position_eq_parked {shared : Shared σ κ} (sound : shared.Sound)
    (free : shared.waits = []) (held : shared.system.control.requested ≠ .shutdown)
    (stopped : shared.system.control.isSampling = false) :
    shared.system.sampler.position = .parked := by
  refine sound.handshake.position_eq_parked (fun settled => ?_) held
  cases asked : shared.system.control.requested with
  | idle =>
      have pending := sound.waited asked settled
      rw [free] at pending
      exact List.not_mem_nil pending
  | sampling => exact System.asked_of_stopped stopped asked
  | shutdown => exact held asked

end Shared

/-- Releasing a driver comes to the same as stopping it and releasing it then,
from every state that it can be in when no other call is under way and for every
store, as long as the calls return because their waits are over. -/
theorem release_eq_of_reachable {sensitivity : Sensitivity} {store : σ} {sink : κ}
    {shared : Shared σ κ} (reachable : shared.Reachable sensitivity store sink)
    (free : shared.waits = []) {env direct first second : List Surroundings}
    (early : direct <+: env) (earlyToo : first ++ second <+: env)
    {one middle two : Moved σ κ} (released : shared.system.Calls .shutdown direct one)
    (stopped : shared.system.Calls .deactivate first middle)
    (releasedThen : middle.system.Calls .shutdown second two) :
    middle.actions ++ two.actions = one.actions ∧ two.system.store = one.system.store ∧
      two.system.sampler = one.system.sampler ∧ Releases shared.system one := by
  have sound := reachable.sound
  obtain ⟨held, run⟩ := released.run?
  have gone := released.gone sound.handshake
  have goneToo := releasedThen.gone (sound.handshake.run? stopped.1)
  have runToo := System.run?_append_eq_some_iff.mpr
    ⟨middle, two, stopped.run?.2, releasedThen.1, rfl⟩
  have releasing : ∀ move ∈ first.map Move.turn ++ Move.request .shutdown :: second.map Move.turn,
      System.IsReleasing move := by
    rw [List.forall_mem_append, List.forall_mem_cons]
    exact ⟨System.isReleasing_of_mem_turns, .inr rfl, System.isReleasing_of_mem_turns⟩
  have given : (first.map Move.turn ++ Move.request .shutdown :: second.map Move.turn).filterMap
      System.surroundings? <+: env := by
    rw [List.filterMap_append, List.filterMap_cons_none rfl,
      System.filterMap_surroundings?_map_turn, System.filterMap_surroundings?_map_turn]
    exact earlyToo
  obtain ⟨actions_eq, store_eq, session_eq, sink_eq⟩ :=
    (System.alike_request held).run? releasing early given run runToo (by rw [gone]; rfl)
      (by rw [goneToo]; rfl)
  refine ⟨actions_eq, store_eq, ?_, ?_⟩
  · exact Sampler.eq_of_parts (goneToo.trans gone.symm) session_eq sink_eq
  · refine released.releases sound.handshake fun idle => ?_
    rw [sound.position_eq_parked free held idle]
    rfl

/-! ## The end of a release -/

/-- Turns that are left to a thread from a place on until it is gone. -/
def Position.turnsLeft : Position → Nat
  | .gone => 0
  | .parked => 1
  | .settling => 2
  | .closing => 3
  | .checking _ _ | .asleep _ => 4
  | .reading _ | .resting _ | .marking _ _ => 5
  | .starting | .handling _ _ | .flushing _ _ => 6
  | .loading => 7

theorem Position.turnsLeft_eq_zero_iff {position : Position} :
    position.turnsLeft = 0 ↔ position = .gone := by
  cases position <;> simp [turnsLeft]

theorem Sampler.Takes.turnsLeft_lt {sampler : Sampler κ} {control : Control} {store : σ}
    {surroundings : Surroundings} {turn : Turn σ κ}
    (takes : sampler.Takes control store surroundings turn)
    (released : control.requested = .shutdown) :
    turn.sampler.position.turnsLeft < sampler.position.turnsLeft := by
  cases takes with
  | begin _ asked | park _ asked =>
      rw [released] at asked
      contradiction
  | proceed _ asked | serve _ asked | awake _ asked =>
      rw [control.isSampling_eq_true_iff, released] at asked
      contradiction
  | leave place | load place | beginRead place | endRead place | discard place | publish place
  | fail place | rest place | stop place | flush place | mark place | close place | settle place =>
      rw [place]
      exact Nat.lt_succ_self _

/-- A driver that is being released comes to the end of it once its read does. -/
theorem System.exists_run?_gone {surroundings : Surroundings}
    (ends : surroundings.read? ≠ none) {turns : Nat} {system : System σ κ}
    (released : system.control.requested = .shutdown)
    (enough : system.sampler.position.turnsLeft ≤ turns) :
    ∃ count last, system.run? ((List.replicate count surroundings).map .turn) = some last ∧
      last.system.sampler.position = .gone := by
  induction turns generalizing system with
  | zero => exact ⟨0, _, rfl, Position.turnsLeft_eq_zero_iff.mp (Nat.le_zero.mp enough)⟩
  | succ turns ih =>
      cases made : system.turn? surroundings with
      | none =>
          have waits := Sampler.turn?_eq_none_iff.mp (Option.map_eq_none_iff.mp made)
          cases waits with
          | parked _ asked =>
              rw [released] at asked
              contradiction
          | reading _ blocked => exact absurd blocked ends
          | asleep _ asked =>
              rw [system.control.isSampling_eq_true_iff, released] at asked
              contradiction
          | gone place => exact ⟨0, _, rfl, place⟩
      | some moved =>
          obtain ⟨turn, takes, rfl⟩ := turn?_eq_some_iff.mp made
          have fewer : turn.sampler.position.turnsLeft ≤ turns :=
            Nat.le_of_lt_succ ((takes.turnsLeft_lt released).trans_le enough)
          have releasedNext : turn.control.requested = .shutdown :=
            takes.requested_eq.trans released
          obtain ⟨count, last, runs, gone⟩ :=
            @ih ⟨turn.control, turn.sampler, turn.store⟩ releasedNext fewer
          exact ⟨count + 1, _, run?_cons_eq_some_iff.mpr ⟨_, last, made, runs, rfl⟩, gone⟩

/-- The release of every driver returns, as long as a read in progress ends. -/
theorem System.exists_calls_shutdown {system : System σ κ}
    (handshake : Handshake system.control system.sampler.position)
    (held : system.control.requested ≠ .shutdown) {surroundings : Surroundings}
    (ends : surroundings.read? ≠ none) :
    ∃ turns last, system.Calls .shutdown turns last := by
  obtain ⟨count, last, runs, gone⟩ :=
    exists_run?_gone ends (rfl : (system.request .shutdown).control.requested = .shutdown)
      (Nat.le_refl _)
  have run : system.run? (.request .shutdown :: (List.replicate count surroundings).map .turn) =
      some last :=
    run?_cons_eq_some_iff.mpr ⟨_, last, move?_eq_some_iff.mpr (.request held), runs, rfl⟩
  refine ⟨_, last, run, fun wait mem => ?_⟩
  cases mem
  exact decide_eq_true ((handshake.run? run).released.mpr gone)

/-! ## A release in a sleep -/

/-- Turns of the thread lead from what is reachable to what is reachable. -/
theorem Shared.Reachable.turns {sensitivity : Sensitivity} {store : σ} {sink : κ}
    {shared : Shared σ κ} (reachable : shared.Reachable sensitivity store sink)
    {turns : List Surroundings} {last : Moved σ κ}
    (run : shared.system.run? (turns.map .turn) = some last) :
    Shared.Reachable sensitivity store sink ⟨last.system, shared.waits⟩ := by
  induction turns generalizing shared last with
  | nil =>
      cases run
      exact reachable
  | cons surroundings turns ih =>
      obtain ⟨first, final, made, runs, rfl⟩ := System.run?_cons_eq_some_iff.mp run
      cases System.move?_eq_some_iff.mp made with
      | @turn _ turn takes =>
          have next : Shared.Reachable sensitivity store sink
              ⟨⟨turn.control, turn.sampler, turn.store⟩, shared.waits⟩ :=
            reachable.tail (.turn takes)
          have reached := ih next runs
          exact reached

/-- The turns that bring a new driver to the sleep after its first sample. -/
def turnsUntilAsleep : List Surroundings :=
  [⟨0, 0, none⟩, ⟨0, 0, none⟩, ⟨0, 0, none⟩, ⟨5, 0, some (.ok ⟨1, 2, 3⟩)⟩, ⟨5, 0, none⟩,
    ⟨7, 0, none⟩, ⟨7, 0, none⟩]

/-- A driver in the sleep after its first sample. -/
def asleep : Moved MemoryStore (List Event) :=
  (((System.new .neutral (.ofStored .empty) []).request .activate).run?
    (turnsUntilAsleep.map .turn)).get (by decide +kernel)

/-- The driver is released in its sleep. -/
def asleepReleased : Moved MemoryStore (List Event) :=
  (asleep.system.run? (.request .shutdown :: (List.replicate 4 ⟨8, 0, none⟩).map .turn)).get
    (by decide +kernel)

/-- The driver is stopped in its sleep. -/
def asleepStopped : Moved MemoryStore (List Event) :=
  (asleep.system.run? (.request .deactivate :: (List.replicate 4 ⟨8, 0, none⟩).map .turn)).get
    (by decide +kernel)

/-- The driver that was stopped is released. -/
def stoppedReleased : Moved MemoryStore (List Event) :=
  (asleepStopped.system.run? (.request .shutdown :: [⟨8, 0, none⟩].map .turn)).get
    (by decide +kernel)

/-- The driver is released in its sleep, or it is stopped there and then released. -/
theorem release_eq_of_reachable_asleep :
    Shared.Reachable .neutral (.ofStored .empty) [] ⟨asleep.system, []⟩ ∧
      asleep.system.Calls .shutdown (.replicate 4 ⟨8, 0, none⟩) asleepReleased ∧
      asleep.system.Calls .deactivate (.replicate 4 ⟨8, 0, none⟩) asleepStopped ∧
      asleepStopped.system.Calls .shutdown [⟨8, 0, none⟩] stoppedReleased ∧
      asleepStopped.actions ++ stoppedReleased.actions = asleepReleased.actions ∧
      stoppedReleased.system.store = asleepReleased.system.store ∧
      stoppedReleased.system.sampler = asleepReleased.system.sampler ∧
      Releases asleep.system asleepReleased := by
  have reachable : Shared.Reachable .neutral (.ofStored .empty) [] ⟨asleep.system, []⟩ :=
    Shared.Reachable.turns (.single (.call (by decide))) (Option.some_get _).symm
  have released : asleep.system.Calls .shutdown (.replicate 4 ⟨8, 0, none⟩) asleepReleased :=
    ⟨(Option.some_get _).symm, by decide +kernel⟩
  have stopped : asleep.system.Calls .deactivate (.replicate 4 ⟨8, 0, none⟩) asleepStopped :=
    ⟨(Option.some_get _).symm, by decide +kernel⟩
  have releasedThen : asleepStopped.system.Calls .shutdown [⟨8, 0, none⟩] stoppedReleased :=
    ⟨(Option.some_get _).symm, by decide +kernel⟩
  exact ⟨reachable, released, stopped, releasedThen,
    release_eq_of_reachable reachable rfl (List.prefix_append _ [⟨8, 0, none⟩]) List.prefix_rfl
      released stopped releasedThen⟩

end Magnetometer.Lifecycle
