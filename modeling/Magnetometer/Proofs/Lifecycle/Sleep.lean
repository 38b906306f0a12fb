import Magnetometer.Proofs.Lifecycle.Flush
import Magnetometer.Proofs.Lifecycle.Phases
import Magnetometer.Proofs.Lifecycle.Rest
import Mathlib.Data.List.Infix

/-!
# The sleep between two samples

A thread that has taken a sample in fixes the end of its sleep and then looks at the
control block, again and again: first for the end of sampling, then for flushes to
serve, then at the time.  Between two looks it waits or writes, and the lock is free,
so that anything may happen there, and any number of times.  `Sleeps` says that the
thread is still in its sleep after a schedule of moves; `Slept` says what then holds,
and what the next move may bring.
-/

namespace Magnetometer.Lifecycle

namespace Position

/-- The end of the sleep that the thread is in. -/
def deadline? : Position → Option Nat
  | .asleep deadline | .flushing deadline _ | .marking deadline _ => some deadline
  | _ => none

/-- What a sleep came to that is just over: the next read, or else the end of the
session. -/
def slept? : Position → Option Bool
  | .starting => some true
  | .closing => some false
  | _ => none

theorem slept?_of_deadline? {position : Position} {deadline : Nat}
    (sleeps : position.deadline? = some deadline) : position.slept? = none := by
  cases position with
  | asleep | flushing | marking => rfl
  | _ => contradiction

end Position

variable {σ κ : Type} [CalibrationStore σ] [EventSink κ]

/-! ## Schedules -/

namespace Moved

/-- Where the thread is. -/
abbrev position (now : Moved σ κ) : Position := now.system.sampler.position

/-- The control block. -/
abbrev control (now : Moved σ κ) : Control := now.system.control

/-- Make one more move.  A move that cannot be made changes nothing: a thread that
is woken up for nothing goes on to wait. -/
def next (now : Moved σ κ) (move : Move) : Moved σ κ :=
  match now.system.move? move with
  | some moved => ⟨moved.system, now.actions ++ moved.actions, now.notices ++ moved.notices⟩
  | none => now

theorem next_of_takes {now : Moved σ κ} {surroundings : Surroundings} {turn : Turn σ κ}
    (takes : now.system.sampler.Takes now.control now.system.store surroundings turn) :
    now.next (.turn surroundings) =
      ⟨⟨turn.control, turn.sampler, turn.store⟩, now.actions ++ turn.actions,
        now.notices ++ turn.notices⟩ := by
  have made : now.system.move? (.turn surroundings) = some _ :=
    System.turn?_eq_some_iff.mpr ⟨turn, takes, rfl⟩
  rw [next, made]

end Moved

namespace System

/-- What comes of a schedule. -/
def play (start : System σ κ) (moves : List Move) : Moved σ κ :=
  moves.foldl Moved.next ⟨start, [], []⟩

theorem play_concat (start : System σ κ) (moves : List Move) (move : Move) :
    start.play (moves ++ [move]) = (start.play moves).next move :=
  List.foldl_concat _ _ _ _

/-- A run is a schedule of which every move can be made. -/
theorem play_of_run? {start : System σ κ} {moves : List Move} {last : Moved σ κ}
    (run : start.run? moves = some last) : start.play moves = last := by
  induction moves using List.reverseRecOn generalizing last with
  | nil => exact Option.some.inj run
  | append_singleton before move ih =>
      obtain ⟨middle, moved, reached, happens, rfl⟩ := run?_concat_eq_some_iff.mp run
      rw [play_concat, ih reached, Moved.next, move?_eq_some_iff.mpr happens]

/-- A schedule is a run of the moves of it that can be made. -/
theorem exists_run?_eq_play (start : System σ κ) (moves : List Move) :
    ∃ made, made.Sublist moves ∧ start.run? made = some (start.play moves) := by
  induction moves using List.reverseRecOn with
  | nil => exact ⟨[], .slnil, rfl⟩
  | append_singleton before move ih =>
      obtain ⟨made, sub, run⟩ := ih
      rw [play_concat, Moved.next]
      cases taken : (start.play before).system.move? move with
      | none => exact ⟨made, sub.trans (List.sublist_append_left _ _), run⟩
      | some moved =>
          exact ⟨made ++ [move], sub.append_right _, run?_concat_eq_some_iff.mpr
            ⟨_, moved, run, move?_eq_some_iff.mp taken, rfl⟩⟩

/-- What comes of a sleep: the turn that enters it and the moves from there on. -/
def sleep (start : System σ κ) (entry : Surroundings) (moves : List Move) : Moved σ κ :=
  start.play (.turn entry :: moves)

theorem sleep_concat (start : System σ κ) (entry : Surroundings) (moves : List Move)
    (move : Move) :
    start.sleep entry (moves ++ [move]) = (start.sleep entry moves).next move :=
  start.play_concat (.turn entry :: moves) move

end System

/-- A thread that comes from a read, begun at a time of the event clock, enters its
sleep and is still in it after a schedule. -/
structure Sleeps (start : System σ κ) (started : UInt64) (entry : Surroundings)
    (moves : List Move) : Prop where
  enters : start.sampler.position = .resting started
  goesOn : ∀ before, before <+: moves → (start.sleep entry before).position.slept? = none

/-! ## Moves in a sleep -/

/-- What a move comes to while the thread is in a sleep. -/
inductive Dozes (deadline : Nat) (now : Moved σ κ) : Move → Moved σ κ → Prop
  | ask {request : Request} :
      Dozes deadline now (.request request) { now with system := now.system.request request }
  /-- A driver that is released takes no request. -/
  | refuse {request : Request} (released : now.control.requested = .shutdown) :
      Dozes deadline now (.request request) now
  | save {offset : HardIronOffset} {store : σ} :
      Dozes deadline now (.save offset) { now with system := { now.system with store := store } }
  | wait {surroundings : Surroundings} (place : now.position = .asleep deadline)
      (asked : now.control.requested = .sampling) (early : surroundings.instant < deadline) :
      Dozes deadline now (.turn surroundings) now
  | stop {surroundings : Surroundings} (place : now.position = .asleep deadline)
      (stopped : now.control.requested ≠ .sampling) :
      Dozes deadline now (.turn surroundings)
        { now with system.sampler := now.system.sampler.move .closing }
  | serve {surroundings : Surroundings} (place : now.position = .asleep deadline)
      (asked : now.control.requested = .sampling)
      (pending : now.control.flushesServed ≠ now.control.flushesRequested) :
      Dozes deadline now (.turn surroundings)
        { now with
          system.sampler :=
            now.system.sampler.move (.flushing deadline now.control.flushesRequested) }
  | awake {surroundings : Surroundings} (place : now.position = .asleep deadline)
      (asked : now.control.requested = .sampling)
      (settled : now.control.flushesServed = now.control.flushesRequested)
      (passed : deadline ≤ surroundings.instant) :
      Dozes deadline now (.turn surroundings)
        { now with system.sampler := now.system.sampler.move .starting }
  | write {surroundings : Surroundings} {target : Nat} {store : σ} {notices : List Notice}
      (place : now.position = .flushing deadline target) :
      Dozes deadline now (.turn surroundings)
        ⟨⟨now.control, now.system.sampler.move (.marking deadline target), store⟩,
          now.actions ++ [.persist (Sampler.offered now.system.sampler.session)],
          now.notices ++ notices⟩
  | mark {surroundings : Surroundings} {target : Nat}
      (place : now.position = .marking deadline target) :
      Dozes deadline now (.turn surroundings)
        { now with
          system.control := now.control.serve target
          system.sampler := now.system.sampler.move (.asleep deadline) }

theorem Control.flushPending_eq_true_iff (control : Control) :
    control.flushPending = true ↔ control.flushesServed ≠ control.flushesRequested := by
  simp [flushPending]

/-- What the turns of a thread in a sleep come to. -/
theorem Dozes.of_takes {now : Moved σ κ} {deadline : Nat} {surroundings : Surroundings}
    {turn : Turn σ κ} (sleeps : now.position.deadline? = some deadline)
    (takes : now.system.sampler.Takes now.control now.system.store surroundings turn) :
    Dozes deadline now (.turn surroundings) (now.next (.turn surroundings)) := by
  rw [Moved.next_of_takes takes]
  unfold Moved.position at sleeps
  cases takes with
  | stop place stopped =>
      rw [place] at sleeps
      cases sleeps
      simp only [Sampler.go, List.append_nil]
      exact .stop place (by simpa [Control.isSampling] using stopped)
  | serve place asked pending =>
      rw [place] at sleeps
      cases sleeps
      simp only [Sampler.go, List.append_nil]
      exact .serve place ((Control.isSampling_eq_true_iff _).mp asked)
        ((Control.flushPending_eq_true_iff _).mp pending)
  | awake place asked settled passed =>
      rw [place] at sleeps
      cases sleeps
      simp only [Sampler.go, List.append_nil]
      exact .awake place ((Control.isSampling_eq_true_iff _).mp asked)
        (by simpa [Control.flushPending] using settled) passed
  | flush place =>
      rw [place] at sleeps
      cases sleeps
      exact .write place
  | mark place =>
      rw [place] at sleeps
      cases sleeps
      simp only [Sampler.go, List.append_nil]
      exact .mark place
  | begin place | leave place | park place | load place | beginRead place | endRead place
  | proceed place | discard place | publish place | fail place | rest place | close place
  | settle place =>
      rw [place] at sleeps
      contradiction

/-- The list of what moves come to is complete. -/
theorem Moved.dozes_next {now : Moved σ κ} {deadline : Nat}
    (sleeps : now.position.deadline? = some deadline) (move : Move) :
    Dozes deadline now move (now.next move) := by
  cases move with
  | request request =>
      by_cases released : now.control.requested = .shutdown
      · have unmade : now.system.move? (.request request) = none := if_pos released
        rw [next, unmade]
        exact .refuse released
      · have made : now.system.move? (.request request) =
            some ⟨now.system.request request, [], []⟩ := if_neg released
        simp only [next, made, List.append_nil]
        exact .ask
  | save offset =>
      simp only [next, System.move?, List.append_nil]
      exact .save
  | turn surroundings =>
      cases taken : now.system.move? (.turn surroundings) with
      | some moved =>
          obtain ⟨turn, takes, -⟩ := System.turn?_eq_some_iff.mp taken
          exact .of_takes sleeps takes
      | none =>
          rw [next, taken]
          unfold Moved.position at sleeps
          cases Sampler.turn?_eq_none_iff.mp (Option.map_eq_none_iff.mp taken) with
          | asleep place asked settled early =>
              rw [place] at sleeps
              cases sleeps
              exact .wait place ((Control.isSampling_eq_true_iff _).mp asked) early
          | parked place | reading place | gone place =>
              rw [place] at sleeps
              contradiction

namespace Dozes

variable {deadline : Nat} {now next : Moved σ κ} {move : Move}

omit [EventSink κ] [CalibrationStore σ]

theorem deadline?_eq (dozes : Dozes deadline now move next)
    (sleeps : now.position.deadline? = some deadline) (goesOn : next.position.slept? = none) :
    next.position.deadline? = some deadline := by
  cases dozes with
  | stop | awake => contradiction
  | ask | refuse | save | wait => exact sleeps
  | serve | write | mark => rfl

/-- A sleep comes to the next read exactly at a look that finds sampling asked for,
no flush pending and the time come. -/
theorem slept?_eq_some_true_iff (dozes : Dozes deadline now move next)
    (sleeps : now.position.deadline? = some deadline) :
    next.position.slept? = some true ↔
      ∃ surroundings, move = .turn surroundings ∧ now.position = .asleep deadline ∧
        deadline ≤ surroundings.instant ∧ now.control.requested = .sampling ∧
        now.control.flushesServed = now.control.flushesRequested := by
  have still := Position.slept?_of_deadline? sleeps
  constructor
  · intro ended
    cases dozes with
    | awake place asked settled passed => exact ⟨_, rfl, place, passed, asked, settled⟩
    | ask | refuse | save | wait =>
        cases still.symm.trans ended
    | stop | serve | write | mark => nomatch ended
  · rintro ⟨surroundings, rfl, place, passed, asked, settled⟩
    cases dozes with
    | wait _ _ early => exact absurd passed (Nat.not_le.mpr early)
    | stop _ stopped => exact absurd asked stopped
    | serve _ _ pending => exact absurd settled pending
    | awake => rfl
    | write other | mark other => cases place.symm.trans other

/-- A sleep comes to the end of the session exactly at a look that finds sampling no
longer asked for. -/
theorem slept?_eq_some_false_iff (dozes : Dozes deadline now move next)
    (sleeps : now.position.deadline? = some deadline) :
    next.position.slept? = some false ↔
      ∃ surroundings, move = .turn surroundings ∧ now.position = .asleep deadline ∧
        now.control.requested ≠ .sampling := by
  have still := Position.slept?_of_deadline? sleeps
  constructor
  · intro ended
    cases dozes with
    | stop place stopped => exact ⟨_, rfl, place, stopped⟩
    | ask | refuse | save | wait =>
        cases still.symm.trans ended
    | awake | serve | write | mark => nomatch ended
  · rintro ⟨surroundings, rfl, place, stopped⟩
    cases dozes with
    | stop => rfl
    | wait _ asked | serve _ asked | awake _ asked => exact absurd asked stopped
    | write other | mark other => cases place.symm.trans other

theorem session_eq (dozes : Dozes deadline now move next) :
    next.system.sampler.session = now.system.sampler.session := by
  cases dozes <;> rfl

/-- A thread that sleeps uses nothing, but for the store in a write. -/
theorem actions_eq (dozes : Dozes deadline now move next) :
    next.actions = now.actions ∨
      ∃ surroundings target, move = .turn surroundings ∧
        now.position = .flushing deadline target ∧
        next.actions =
          now.actions ++ [.persist (Sampler.offered now.system.sampler.session)] := by
  cases dozes with
  | write place => exact .inr ⟨_, _, rfl, place, rfl⟩
  | _ => exact .inl rfl

/-- Only the mark after a write serves flushes. -/
theorem flushesServed_eq (dozes : Dozes deadline now move next) :
    next.control.flushesServed = now.control.flushesServed ∨
      ∃ surroundings target, move = .turn surroundings ∧
        now.position = .marking deadline target ∧ next.control.flushesServed = target := by
  cases dozes with
  | mark place => exact .inr ⟨_, _, rfl, place, rfl⟩
  | ask => exact .inl (Control.flushesServed_submit _ _)
  | _ => exact .inl rfl

theorem flushesServed_eq_of_marking {surroundings : Surroundings} {target : Nat}
    (dozes : Dozes deadline now (.turn surroundings) next)
    (marking : now.position = .marking deadline target) :
    next.control.flushesServed = target := by
  cases dozes with
  | mark place =>
      cases place.symm.trans marking
      rfl
  | wait place | stop place | serve place | awake place | write place =>
      cases place.symm.trans marking

theorem flushesRequested_le (dozes : Dozes deadline now move next) :
    now.control.flushesRequested ≤ next.control.flushesRequested := by
  cases dozes with
  | ask => exact Control.flushesRequested_le_submit _ _
  | _ => exact Nat.le_refl _

/-- A flush that is asked for while sampling is takes the next number. -/
theorem flushesRequested_eq (dozes : Dozes deadline now (.request .flush) next)
    (asked : now.control.requested = .sampling) :
    next.control.flushesRequested = now.control.flushesRequested + 1 := by
  cases dozes with
  | ask =>
      refine (Control.flushesRequested_submit _ _).trans (if_pos ⟨rfl, ?_⟩)
      exact (Control.isSampling_eq_true_iff _).mpr asked
  | refuse released => cases asked.symm.trans released

end Dozes

/-! ## Writes in a sleep -/

/-- A write in progress, and the look that undertook it.  The write starts with this
look, which sets the lock free for it. -/
structure Undertaken (look now : Moved σ κ) : Prop where
  asleep : ∃ deadline, look.position = .asleep deadline
  asked : look.control.requested = .sampling
  pending : look.control.flushesServed ≠ look.control.flushesRequested
  /-- The write is for the flushes that were asked for up to the look. -/
  target?_eq : now.position.target? = some look.control.flushesRequested
  served_eq : now.control.flushesServed = look.control.flushesServed
  unwritten : ∀ deadline target, now.position = .flushing deadline target →
    now.actions = look.actions
  written : ∀ deadline target, now.position = .marking deadline target →
    now.actions = look.actions ++ [.persist (Sampler.offered now.system.sampler.session)]

namespace Undertaken

variable {look now next : Moved σ κ} {deadline : Nat} {move : Move}

omit [EventSink κ] [CalibrationStore σ]

/-- A write is undertaken by a look, or it was in progress before. -/
theorem of_dozes (dozes : Dozes deadline now move next)
    (writing : next.position.target?.isSome) :
    (∃ surroundings, move = .turn surroundings ∧ Undertaken now next) ∨
      now.position.target?.isSome := by
  cases dozes with
  | serve place asked pending =>
      exact .inl ⟨_, rfl, {
        asleep := ⟨_, place⟩
        asked := asked
        pending := pending
        target?_eq := rfl
        served_eq := rfl
        unwritten := fun _ _ _ => rfl
        written := nofun }⟩
  | ask | refuse | save | wait => exact .inr writing
  | write place =>
      right
      rw [place]
      rfl
  | stop | awake | mark => contradiction

/-- A write that goes on is still the one that the look undertook. -/
theorem dozes (undertaken : Undertaken look now) (dozes : Dozes deadline now move next)
    (writing : next.position.target?.isSome) : Undertaken look next := by
  have target_eq := undertaken.target?_eq
  cases dozes with
  | ask =>
      exact { undertaken with
        served_eq := (Control.flushesServed_submit _ _).trans undertaken.served_eq }
  | refuse | wait => exact undertaken
  | save => exact { undertaken with }
  | stop place | serve place | awake place =>
      rw [place] at target_eq
      contradiction
  | write place =>
      rw [place] at target_eq
      exact { undertaken with
        target?_eq := target_eq
        unwritten := nofun
        written := fun _ _ _ => congrArg (· ++ _) (undertaken.unwritten _ _ place) }
  | mark => contradiction

end Undertaken

/-! ## Sleeps -/

namespace Sleeps

variable {start : System σ κ} {started : UInt64} {entry : Surroundings} {moves : List Move}

theorem of_isPrefix (sleeps : Sleeps start started entry moves) {before : List Move}
    (starts : before <+: moves) : Sleeps start started entry before where
  enters := sleeps.enters
  goesOn front shorter := sleeps.goesOn front (shorter.trans starts)

theorem of_concat {move : Move} (sleeps : Sleeps start started entry (moves ++ [move])) :
    Sleeps start started entry moves :=
  sleeps.of_isPrefix (List.prefix_append _ _)

theorem sleep_nil (sleeps : Sleeps start started entry moves) :
    start.sleep entry [] =
      ⟨{ start with
          sampler := start.sampler.move (.asleep (Sampler.deadline start.control entry started)) },
        [], []⟩ := by
  have rests : start.sampler.Takes start.control start.store entry _ := .rest sleeps.enters
  change Moved.next ⟨start, [], []⟩ (.turn entry) = _
  rw [Moved.next_of_takes rests]
  rfl

/-- The end of the sleep is fixed where the sleep begins. -/
theorem deadline?_eq (sleeps : Sleeps start started entry moves) :
    (start.sleep entry moves).position.deadline? =
      some (Sampler.deadline start.control entry started) := by
  induction moves using List.reverseRecOn with
  | nil =>
      rw [sleeps.sleep_nil]
      rfl
  | append_singleton before move ih =>
      have slept := ih sleeps.of_concat
      have dozes := Moved.dozes_next slept move
      have goesOn := sleeps.goesOn _ List.prefix_rfl
      rw [System.sleep_concat] at goesOn ⊢
      exact dozes.deadline?_eq slept goesOn

theorem dozes (sleeps : Sleeps start started entry moves) (move : Move) :
    Dozes (Sampler.deadline start.control entry started) (start.sleep entry moves) move
      (start.sleep entry (moves ++ [move])) := by
  rw [System.sleep_concat]
  exact Moved.dozes_next sleeps.deadline?_eq move

theorem session_eq (sleeps : Sleeps start started entry moves) :
    (start.sleep entry moves).system.sampler.session = start.sampler.session := by
  induction moves using List.reverseRecOn with
  | nil =>
      rw [sleeps.sleep_nil]
      rfl
  | append_singleton before move ih =>
      exact (sleeps.of_concat.dozes move).session_eq.trans (ih sleeps.of_concat)

theorem flushesRequested_le (sleeps : Sleeps start started entry moves) {before : List Move}
    (starts : before <+: moves) :
    (start.sleep entry before).control.flushesRequested ≤
      (start.sleep entry moves).control.flushesRequested := by
  induction moves using List.reverseRecOn with
  | nil =>
      rw [List.prefix_nil.mp starts]
  | append_singleton front move ih =>
      rcases List.prefix_concat_iff.mp starts with rfl | shorter
      · exact Nat.le_refl _
      · exact Nat.le_trans (ih sleeps.of_concat shorter)
          (sleeps.of_concat.dozes move).flushesRequested_le

/-- Every write in a sleep was undertaken by a look of this sleep. -/
theorem exists_undertaken (sleeps : Sleeps start started entry moves)
    (writing : (start.sleep entry moves).position.target?.isSome) :
    ∃ before surroundings, before ++ [.turn surroundings] <+: moves ∧
      Undertaken (start.sleep entry before) (start.sleep entry moves) := by
  induction moves using List.reverseRecOn with
  | nil =>
      rw [sleeps.sleep_nil] at writing
      contradiction
  | append_singleton before move ih =>
      have dozes := sleeps.of_concat.dozes move
      rcases Undertaken.of_dozes dozes writing with ⟨surroundings, rfl, undertaken⟩ | earlier
      · exact ⟨before, surroundings, List.prefix_rfl, undertaken⟩
      · obtain ⟨front, surroundings, starts, undertaken⟩ := ih sleeps.of_concat earlier
        exact ⟨front, surroundings, starts.trans (List.prefix_append _ _),
          undertaken.dozes dozes writing⟩

end Sleeps

/-- The flushes up to a number are those that were asked for before a point of the
schedule of a sleep: all from before the sleep, those of the schedule up to the point,
and none later. -/
structure Registered (start : System σ κ) (entry : Surroundings) (before moves : List Move)
    (number : Nat) : Prop where
  earlier : start.control.flushesRequested ≤ number
  /-- A flush that is asked for in the schedule is among them exactly if it comes before
  the point. -/
  inside_iff : ∀ front, front ++ [.request .flush] <+: moves →
    (start.sleep entry front).control.requested = .sampling →
    ((start.sleep entry front).control.flushesRequested + 1 ≤ number ↔
      front.length < before.length)
  /-- Flushes that are still to be asked for get greater numbers. -/
  later : number ≤ (start.sleep entry moves).control.flushesRequested

namespace Sleeps

variable {start : System σ κ} {started : UInt64} {entry : Surroundings} {moves : List Move}

theorem registered (sleeps : Sleeps start started entry moves) {before : List Move}
    (starts : before <+: moves) :
    Registered start entry before moves (start.sleep entry before).control.flushesRequested := by
  have sleepsBefore := sleeps.of_isPrefix starts
  constructor
  case earlier =>
    have first := sleepsBefore.flushesRequested_le List.nil_prefix
    rwa [sleeps.sleep_nil] at first
  case inside_iff =>
    intro front asks asked
    have sleepsFront := sleeps.of_isPrefix ((List.prefix_append _ _).trans asks)
    have numbered := (sleepsFront.dozes (.request .flush)).flushesRequested_eq asked
    rw [← numbered]
    -- Two points of one schedule: the numbers go up from the earlier to the later one.
    constructor
    · intro served
      by_contra long
      have shorter : before <+: front := List.prefix_of_prefix_length_le starts
        ((List.prefix_append _ _).trans asks) (Nat.le_of_not_lt long)
      have fewer := sleepsFront.flushesRequested_le shorter
      omega
    · intro short
      have shorter : front ++ [.request .flush] <+: before :=
        List.prefix_of_prefix_length_le asks starts (by rwa [List.length_append])
      exact sleepsBefore.flushesRequested_le shorter
  case later => exact sleeps.flushesRequested_le starts

end Sleeps

/-- What holds while a thread is in a sleep that ends at a time, and what its next move
may bring. -/
structure Slept (start : System σ κ) (entry : Surroundings) (deadline : Nat)
    (moves : List Move) : Prop where
  deadline?_eq : (start.sleep entry moves).position.deadline? = some deadline
  /-- It comes to the next read exactly at a look that finds sampling asked for, no flush
  pending and the time come. -/
  true_iff : ∀ move, (start.sleep entry (moves ++ [move])).position.slept? = some true ↔
    ∃ surroundings, move = .turn surroundings ∧
      (start.sleep entry moves).position = .asleep deadline ∧
      deadline ≤ surroundings.instant ∧
      (start.sleep entry moves).control.requested = .sampling ∧
      (start.sleep entry moves).control.flushesServed =
        (start.sleep entry moves).control.flushesRequested
  /-- It comes to the end of the session exactly at a look that finds sampling no longer
  asked for. -/
  false_iff : ∀ move, (start.sleep entry (moves ++ [move])).position.slept? = some false ↔
    ∃ surroundings, move = .turn surroundings ∧
      (start.sleep entry moves).position = .asleep deadline ∧
      (start.sleep entry moves).control.requested ≠ .sampling
  /-- Every look so far found sampling asked for. -/
  asked : ∀ before surroundings, before ++ [.turn surroundings] <+: moves →
    (start.sleep entry before).position = .asleep deadline →
    (start.sleep entry before).control.requested = .sampling
  /-- It does nothing but write the session that it was entered with, and only where a
  write is undertaken. -/
  actions_eq : ∀ move,
    (start.sleep entry (moves ++ [move])).actions = (start.sleep entry moves).actions ∨
      ∃ surroundings target, move = .turn surroundings ∧
        (start.sleep entry moves).position = .flushing deadline target ∧
        (start.sleep entry (moves ++ [move])).actions = (start.sleep entry moves).actions ++
          [.persist (Sampler.offered start.sampler.session)]
  /-- A write in progress was undertaken by a look of this sleep, for the flushes that
  were asked for before that look. -/
  undertaken : ∀ target, (start.sleep entry moves).position.target? = some target →
    ∃ before surroundings, before ++ [.turn surroundings] <+: moves ∧
      Undertaken (start.sleep entry before) (start.sleep entry moves) ∧
      Registered start entry before moves target
  /-- These flushes are served once the write is done. -/
  served_eq : ∀ surroundings target,
    (start.sleep entry moves).position = .marking deadline target →
    (start.sleep entry (moves ++ [.turn surroundings])).control.flushesServed = target
  /-- Nothing else serves flushes. -/
  served_eq_or : ∀ move,
    (start.sleep entry (moves ++ [move])).control.flushesServed =
        (start.sleep entry moves).control.flushesServed ∨
      ∃ surroundings target, move = .turn surroundings ∧
        (start.sleep entry moves).position = .marking deadline target ∧
        (start.sleep entry (moves ++ [move])).control.flushesServed = target

/-- Whatever happens during a sleep, and in whatever order, the time of its end is the one
that was fixed where it began: the delay of that moment less the time since the read
began, as far as the delay is longer. -/
theorem slept_of_sleeps {start : System σ κ} {started : UInt64} {entry : Surroundings}
    {moves : List Move} (sleeps : Sleeps start started entry moves) :
    Slept start entry
      (entry.instant + (start.control.delay * 1000 - (entry.clock.toNat - started.toNat)))
      moves := by
  have place := sleeps.deadline?_eq
  constructor
  case deadline?_eq => exact place
  case true_iff =>
    intro move
    exact (sleeps.dozes move).slept?_eq_some_true_iff place
  case false_iff =>
    intro move
    exact (sleeps.dozes move).slept?_eq_some_false_iff place
  case asked =>
    intro before surroundings starts asleep
    by_contra stopped
    have sleepsBefore := sleeps.of_isPrefix ((List.prefix_append _ _).trans starts)
    have ended := ((sleepsBefore.dozes _).slept?_eq_some_false_iff sleepsBefore.deadline?_eq).mpr
      ⟨surroundings, rfl, asleep, stopped⟩
    cases (sleeps.goesOn _ starts).symm.trans ended
  case actions_eq =>
    intro move
    rw [← sleeps.session_eq]
    exact (sleeps.dozes move).actions_eq
  case undertaken =>
    intro target writing
    obtain ⟨before, surroundings, starts, undertaken⟩ :=
      sleeps.exists_undertaken (by rw [writing]; rfl)
    cases undertaken.target?_eq.symm.trans writing
    exact ⟨before, surroundings, starts, undertaken,
      sleeps.registered ((List.prefix_append _ _).trans starts)⟩
  case served_eq =>
    intro surroundings target marking
    exact (sleeps.dozes _).flushesServed_eq_of_marking marking
  case served_eq_or =>
    intro move
    exact (sleeps.dozes move).flushesServed_eq

/-- A driver whose thread comes from a read that began at 1000, with a delay of 5
microseconds. -/
def rested : System MemoryStore (List Event) where
  control := ⟨.sampling, .sampling, 5, .sampling, 0, 0⟩
  sampler := ⟨.resting 1000, .new .neutral, []⟩
  store := .ofStored .empty

/-- The thread is woken up for nothing; then a flush is written for, and while that is
going on another one is asked for. -/
def flushedTwice : List Move :=
  [.turn ⟨0, 150, none⟩, .request .flush, .request (.setDelay 9), .turn ⟨0, 200, none⟩,
    .request .flush, .request .activate, .turn ⟨0, 300, none⟩]

/-- The sleep of 4 microseconds, from 100 on, keeps its end when the delay is set, and
its first write serves the first flush alone. -/
theorem slept_of_sleeps_flushedTwice :
    Sleeps rested 1000 ⟨2000, 100, none⟩ flushedTwice ∧
      Slept rested ⟨2000, 100, none⟩ 4100 flushedTwice ∧
      (rested.sleep ⟨2000, 100, none⟩ flushedTwice).position = .marking 4100 1 ∧
      (rested.sleep ⟨2000, 100, none⟩ flushedTwice).control.delay = 9 ∧
      (rested.sleep ⟨2000, 100, none⟩ flushedTwice).control.flushesRequested = 2 := by
  have goesOn : ∀ before ∈ flushedTwice.inits,
      (rested.sleep ⟨2000, 100, none⟩ before).position.slept? = none := by decide +kernel
  have sleeps : Sleeps rested 1000 ⟨2000, 100, none⟩ flushedTwice :=
    ⟨rfl, fun before starts => goesOn before ((List.mem_inits _ _).mpr starts)⟩
  exact ⟨sleeps, slept_of_sleeps sleeps, rfl, rfl, rfl⟩

end Magnetometer.Lifecycle
