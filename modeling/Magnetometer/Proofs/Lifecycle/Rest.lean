import Magnetometer.Lifecycle.Run
import Magnetometer.Proofs.Lifecycle.Handshake

/-!
# Where the thread comes to rest

`Waits` lists the places at which the sampling thread cannot take a turn, and
`Settles` is the way of a run to one of them.  Every turn and every sleep brings
the thread closer to a place where it waits: `rank` counts how many are left, and
`turnBound` is more than it can be.  `advance` therefore stops only where the
thread waits, and what is proved of `Settles` holds of it.
-/

namespace Magnetometer.Lifecycle

variable {σ κ : Type} [CalibrationStore σ] [EventSink κ]

/-! ## Waiting -/

namespace Sampler

/-- Why a thread cannot take a turn. -/
inductive Waits (s : Sampler κ) (control : Control) (surroundings : Surroundings) : Prop
  | parked (place : s.position = .parked) (asked : control.requested = .idle)
      (settled : control.acknowledged = .idle)
  | reading {started : UInt64} (place : s.position = .reading started)
      (blocked : surroundings.read? = none)
  | asleep {deadline : Nat} (place : s.position = .asleep deadline)
      (asked : control.isSampling = true) (settled : control.flushPending = false)
      (early : surroundings.instant < deadline)
  | gone (place : s.position = .gone)

/-- The list of reasons is exact. -/
theorem turn?_eq_none_iff {s : Sampler κ} {control : Control} {store : σ}
    {surroundings : Surroundings} :
    s.turn? control store surroundings = none ↔ s.Waits control surroundings := by
  constructor
  · intro untaken
    cases place : s.position with
    | parked =>
        simp only [turn?, settle?, place] at untaken
        split at untaken
        · contradiction
        · contradiction
        · rename_i asked
          split at untaken
          · rename_i settled
            exact .parked place asked settled
          · contradiction
    | reading started =>
        simp only [turn?, place, Option.map_eq_none_iff] at untaken
        exact .reading place untaken
    | asleep deadline =>
        simp only [turn?, wake?, place] at untaken
        split at untaken
        · contradiction
        · rename_i asked
          split at untaken
          · contradiction
          · rename_i settled
            split at untaken
            · contradiction
            · rename_i early
              exact .asleep place (by simpa using asked) (by simpa using settled)
                (Nat.lt_of_not_le early)
    | gone => exact .gone place
    | _ => simp [turn?, place] at untaken
  · intro waits
    cases waits with
    | parked place asked settled => simp [turn?, settle?, place, asked, settled]
    | reading place blocked => simp [turn?, place, blocked]
    | asleep place asked settled early =>
        simp [turn?, wake?, place, asked, settled, Nat.not_le.mpr early]
    | gone place => simp [turn?, place]

omit [CalibrationStore σ] [EventSink κ] in
/-- Neither the session nor the clock of events matters to a thread that waits. -/
theorem Waits.of_eq {s t : Sampler κ} {control : Control} {surroundings other : Surroundings}
    (waits : s.Waits control surroundings) (position_eq : t.position = s.position)
    (instant_eq : other.instant = surroundings.instant)
    (read?_eq : other.read? = surroundings.read?) : t.Waits control other := by
  cases waits with
  | parked place asked settled => exact .parked (position_eq.trans place) asked settled
  | reading place blocked => exact .reading (position_eq.trans place) (read?_eq.trans blocked)
  | asleep place asked settled early =>
      rw [← instant_eq] at early
      exact .asleep (position_eq.trans place) asked settled early
  | gone place => exact .gone (position_eq.trans place)

end Sampler

/-! ## Rank -/

/-- Turns and sleeps that are left, at most, to a thread asleep. -/
def Control.sleepRank (control : Control) (instant deadline : Nat) : Nat :=
  if control.isSampling then
    (if deadline ≤ instant then 2 else 3) + (if control.flushPending then 3 else 0)
  else
    6

/-- Turns and sleeps that are left, at most, to a thread that nobody gives a read. -/
def Control.rank (control : Control) (instant : Nat) : Position → Nat
  | .gone | .reading _ => 0
  | .starting => 1
  | .loading => 2
  | .parked => if control.requested = .idle ∧ control.acknowledged = .idle then 0 else 3
  | .settling => 4
  | .closing => 5
  | .asleep deadline => control.sleepRank instant deadline
  | .marking deadline target => (control.serve target).sleepRank instant deadline + 1
  | .flushing deadline target => (control.serve target).sleepRank instant deadline + 2
  | .resting _ => 7
  | .handling _ _ => 8
  | .checking _ _ => 9

namespace Control

theorem sleepRank_le (control : Control) (instant deadline : Nat) :
    control.sleepRank instant deadline ≤ 6 := by
  unfold sleepRank
  split
  · split <;> split <;> decide
  · exact Nat.le_refl _

theorem rank_le (control : Control) (instant : Nat) (position : Position) :
    control.rank instant position ≤ 9 := by
  cases position with
  | parked => simp only [rank]; split <;> omega
  | asleep deadline =>
      have sleeps := sleepRank_le control instant deadline
      simp only [rank]
      omega
  | flushing deadline target | marking deadline target =>
      have sleeps := sleepRank_le (control.serve target) instant deadline
      simp only [rank]
      omega
  | _ => simp [rank]

@[simp]
theorem flushPending_serve_flushesRequested (control : Control) :
    (control.serve control.flushesRequested).flushPending = false := by
  simp [flushPending, serve]

@[simp]
theorem isSampling_serve (control : Control) (target : Nat) :
    (control.serve target).isSampling = control.isSampling := rfl

end Control

/-- Every turn lowers the rank, as long as no read comes to an end. -/
theorem Sampler.Takes.rank_lt {s : Sampler κ} {control : Control} {store : σ}
    {surroundings : Surroundings} {turn : Turn σ κ}
    (takes : s.Takes control store surroundings turn) (blocked : surroundings.read? = none) :
    turn.control.rank surroundings.instant turn.sampler.position <
      control.rank surroundings.instant s.position := by
  cases takes with
  | begin place asked =>
      rw [place]
      simp [Control.rank, asked]
  | leave place asked =>
      rw [place]
      simp [Control.rank, asked]
  | park place asked unsettled =>
      rw [place]
      simp [Control.rank, asked, unsettled]
  | endRead place given =>
      rw [blocked] at given
      contradiction
  | rest place =>
      rw [place]
      exact Nat.lt_succ_of_le (Control.sleepRank_le _ _ _)
  | stop place stopped =>
      rw [place]
      simp [Control.rank, Control.sleepRank, stopped]
  | serve place asked pending =>
      rw [place]
      simp [Control.rank, Control.sleepRank, asked, pending]
  | awake place asked settled passed =>
      rw [place]
      simp [Control.rank, Control.sleepRank, asked, settled, passed]
  | settle place =>
      rw [place]
      simp only [Control.rank, Sampler.position_move]
      split <;> decide
  | load place | beginRead place | proceed place | discard place | publish place | fail place
  | flush place | mark place | close place =>
      rw [place]
      simp [Control.rank]

/-- Whether a thread at a place is in no read, and makes none as long as sampling
is not asked for. -/
def Position.pastReads : Position → Bool
  | .loading | .starting | .reading _ => false
  | _ => true

namespace Sampler.Takes

variable {s : Sampler κ} {control : Control} {store : σ} {surroundings : Surroundings}
  {turn : Turn σ κ}

theorem isSampling_eq (takes : s.Takes control store surroundings turn) :
    turn.control.isSampling = control.isSampling := by
  rw [Control.isSampling, takes.requested_eq, Control.isSampling]

theorem pastReads (takes : s.Takes control store surroundings turn)
    (stopped : control.isSampling = false) (past : s.position.pastReads = true) :
    turn.sampler.position.pastReads = true := by
  cases takes with
  | begin place asked =>
      rw [control.isSampling_eq_true_iff.mpr asked] at stopped
      contradiction
  | load place | beginRead place =>
      rw [place] at past
      contradiction
  | awake place asked =>
      rw [asked] at stopped
      contradiction
  | _ => rfl

end Sampler.Takes

/-! ## Runs that come to rest -/

namespace Run

/-- The thread cannot take a turn. -/
def Waits (run : Run σ κ) : Prop :=
  run.system.sampler.Waits run.system.control ⟨run.clock.now, run.instant, none⟩

/-- The run after a turn. -/
def took (run : Run σ κ) (turn : Turn σ κ) : Run σ κ :=
  { run with
    system := ⟨turn.control, turn.sampler, turn.store⟩
    actions := run.actions ++ turn.actions
    notices := run.notices ++ turn.notices }

theorem turn?_eq_some_iff {run next : Run σ κ} {read? : Option (Except SensorError Sample)} :
    run.turn? read? = some next ↔
      ∃ turn, run.system.sampler.Takes run.system.control run.system.store
          ⟨run.clock.now, run.instant, read?⟩ turn ∧ next = run.took turn := by
  unfold turn?
  rw [Option.map_eq_some_iff]
  constructor
  · rintro ⟨moved, taken, rfl⟩
    obtain ⟨turn, takes, rfl⟩ := System.turn?_eq_some_iff.mp taken
    exact ⟨turn, takes, rfl⟩
  · rintro ⟨turn, takes, rfl⟩
    exact ⟨_, System.turn?_eq_some_iff.mpr ⟨turn, takes, rfl⟩, rfl⟩

theorem turn?_eq_none_iff {run : Run σ κ} : run.turn? none = none ↔ run.Waits := by
  rw [turn?, System.turn?, Option.map_eq_none_iff, Option.map_eq_none_iff,
    Sampler.turn?_eq_none_iff]
  rfl

omit [CalibrationStore σ] [EventSink κ] in
theorem isReading_eq_true_iff {run : Run σ κ} :
    run.isReading = true ↔ ∃ started, run.system.sampler.position = .reading started := by
  unfold isReading
  split
  · rename_i started place
    simp [place]
  · rename_i elsewhere
    exact ⟨nofun, fun ⟨started, place⟩ => absurd place (elsewhere started)⟩

/-- A read that comes to its end lets its thread go on. -/
theorem answer_of_reading {run : Run σ κ} {started : UInt64}
    (place : run.system.sampler.position = .reading started) (patience : Option Nat)
    (outcome : Except SensorError Sample) :
    run.answer patience outcome =
      (run.took (run.system.sampler.go run.system.control run.system.store [.endRead outcome]
        (.checking started outcome))).advance patience := by
  unfold answer
  rw [turn?_eq_some_iff.mpr ⟨_, .endRead place rfl, rfl⟩]

omit [CalibrationStore σ] [EventSink κ] in
theorem sleep?_eq_some_iff {run next : Run σ κ} {patience : Option Nat} :
    run.sleep? patience = some next ↔
      ∃ deadline, run.system.sampler.position = .asleep deadline ∧
        (patience.all fun bound => deadline - run.instant ≤ bound) = true ∧
        next = { run with instant := max run.instant deadline } := by
  unfold sleep?
  constructor
  · intro slept
    split at slept
    · rename_i deadline place
      split at slept
      · rename_i short
        exact ⟨deadline, place, short, (Option.some.inj slept).symm⟩
      · contradiction
    · contradiction
  · rintro ⟨deadline, place, short, rfl⟩
    simp only [place]
    rw [if_pos short]

omit [CalibrationStore σ] [EventSink κ] in
theorem sleep?_eq_none_iff {run : Run σ κ} {bound : Nat} :
    run.sleep? (some bound) = none ↔
      ∀ deadline, run.system.sampler.position = .asleep deadline →
        bound < deadline - run.instant := by
  rw [Option.eq_none_iff_forall_ne_some]
  constructor
  · intro long deadline place
    rcases Nat.lt_or_ge bound (deadline - run.instant) with longer | short
    · exact longer
    · have within : ((some bound).all fun bound => deadline - run.instant ≤ bound) = true :=
        decide_eq_true short
      exact absurd (sleep?_eq_some_iff.mpr ⟨deadline, place, within, rfl⟩) (long _)
  · intro long next slept
    obtain ⟨deadline, place, short, -⟩ := sleep?_eq_some_iff.mp slept
    exact Nat.not_lt.mpr (of_decide_eq_true short) (long deadline place)

/-- How a run goes on until its thread has to wait: for a read, for a request, or
for the end of a sleep that is longer than one has patience for. -/
inductive Settles (patience : Option Nat) : Run σ κ → Run σ κ → Prop
  | rest {run : Run σ κ} (waits : run.Waits) (long : run.sleep? patience = none) :
      Settles patience run run
  | turn {run next last : Run σ κ} (taken : run.turn? none = some next)
      (settles : Settles patience next last) : Settles patience run last
  | sleep {run next last : Run σ κ} (waits : run.Waits) (slept : run.sleep? patience = some next)
      (settles : Settles patience next last) : Settles patience run last

theorem Settles.waits {patience : Option Nat} {run last : Run σ κ}
    (settles : Settles patience run last) : last.Waits ∧ last.sleep? patience = none := by
  induction settles with
  | rest waits long => exact ⟨waits, long⟩
  | turn _ _ ih => exact ih
  | sleep _ _ _ ih => exact ih

/-- Nothing that a thread does by itself changes what is asked for. -/
theorem Settles.requested_eq {patience : Option Nat} {run last : Run σ κ}
    (settles : Settles patience run last) :
    last.system.control.requested = run.system.control.requested := by
  induction settles with
  | rest => rfl
  | turn taken _ ih =>
      obtain ⟨turn, takes, rfl⟩ := turn?_eq_some_iff.mp taken
      exact ih.trans takes.requested_eq
  | sleep _ slept _ ih =>
      obtain ⟨deadline, place, short, rfl⟩ := sleep?_eq_some_iff.mp slept
      exact ih

theorem Settles.isSampling_eq {patience : Option Nat} {run last : Run σ κ}
    (settles : Settles patience run last) :
    last.system.control.isSampling = run.system.control.isSampling := by
  rw [Control.isSampling, settles.requested_eq, Control.isSampling]

/-- A run in which sampling is no longer asked for comes to rest outside every
session, unless a read is still in progress or to be made. -/
theorem Settles.outside {patience : Option Nat} {run last : Run σ κ}
    (settles : Settles patience run last) (stopped : run.system.control.isSampling = false)
    (past : run.system.sampler.position.pastReads = true) :
    last.system.sampler.position.inSession = false := by
  induction settles with
  | @rest run waits =>
      cases waits with
      | parked place | gone place =>
          rw [place]
          rfl
      | reading place =>
          rw [place] at past
          contradiction
      | asleep place asked =>
          rw [stopped] at asked
          contradiction
  | turn taken _ ih =>
      obtain ⟨turn, takes, rfl⟩ := turn?_eq_some_iff.mp taken
      exact ih (takes.isSampling_eq.trans stopped) (takes.pastReads stopped past)
  | sleep _ slept _ ih =>
      obtain ⟨deadline, place, short, rfl⟩ := sleep?_eq_some_iff.mp slept
      exact ih stopped past

/-- A run comes to rest in one way only. -/
theorem Settles.eq {patience : Option Nat} {run last other : Run σ κ}
    (settles : Settles patience run last) (again : Settles patience run other) : other = last := by
  induction settles with
  | rest waits long =>
      cases again with
      | rest => rfl
      | turn taken =>
          rw [turn?_eq_none_iff.mpr waits] at taken
          contradiction
      | sleep _ slept =>
          rw [long] at slept
          contradiction
  | turn taken _ ih =>
      cases again with
      | rest waits =>
          rw [turn?_eq_none_iff.mpr waits] at taken
          contradiction
      | turn takenAgain settles =>
          cases Option.some.inj (taken.symm.trans takenAgain)
          exact ih settles
      | sleep waits =>
          rw [turn?_eq_none_iff.mpr waits] at taken
          contradiction
  | sleep waits slept _ ih =>
      cases again with
      | rest _ long =>
          rw [long] at slept
          contradiction
      | turn taken =>
          rw [turn?_eq_none_iff.mpr waits] at taken
          contradiction
      | sleep _ sleptAgain settles =>
          cases Option.some.inj (slept.symm.trans sleptAgain)
          exact ih settles

/-- Turns and sleeps that are left, at most, to a run. -/
def rank (run : Run σ κ) : Nat :=
  run.system.control.rank run.instant run.system.sampler.position

theorem rank_lt_of_turn? {run next : Run σ κ} (taken : run.turn? none = some next) :
    next.rank < run.rank := by
  obtain ⟨turn, takes, rfl⟩ := turn?_eq_some_iff.mp taken
  exact takes.rank_lt rfl

omit [CalibrationStore σ] [EventSink κ] in
theorem rank_lt_of_sleep? {run next : Run σ κ} {patience : Option Nat} (waits : run.Waits)
    (slept : run.sleep? patience = some next) : next.rank < run.rank := by
  obtain ⟨deadline, place, -, rfl⟩ := sleep?_eq_some_iff.mp slept
  unfold rank
  cases waits with
  | asleep placeToo asked settled early =>
      cases place.symm.trans placeToo
      have passed : deadline ≤ max run.instant deadline := Nat.le_max_right ..
      simp only [place, Control.rank, Control.sleepRank, asked, settled, passed,
        Nat.not_le.mpr early, if_true, if_false]
      decide
  | parked placeToo | reading placeToo | gone placeToo => cases place.symm.trans placeToo

theorem settles_advanceWithin {patience : Option Nat} {turns : Nat} {run : Run σ κ}
    (enough : run.rank < turns) : Settles patience run (advanceWithin patience turns run) := by
  -- Every turn and every sleep lowers the rank, so that the bound is never met.
  induction turns generalizing run with
  | zero => exact absurd enough (Nat.not_lt_zero _)
  | succ turns ih =>
      unfold advanceWithin
      cases taken : run.turn? none with
      | some next =>
          have lower := rank_lt_of_turn? taken
          exact .turn taken (ih (Nat.lt_of_lt_of_le lower (Nat.le_of_lt_succ enough)))
      | none =>
          have waits := turn?_eq_none_iff.mp taken
          dsimp only
          cases slept : run.sleep? patience with
          | some next =>
              have lower := rank_lt_of_sleep? waits slept
              exact .sleep waits slept (ih (Nat.lt_of_lt_of_le lower (Nat.le_of_lt_succ enough)))
          | none => exact .rest waits slept

/-- The bound on the turns of `advance` never cuts it short. -/
theorem settles_advance (patience : Option Nat) (run : Run σ κ) :
    Settles patience run (run.advance patience) :=
  settles_advanceWithin (Nat.lt_of_le_of_lt (Control.rank_le _ _ _) (by decide))

theorem isSampling_advance (patience : Option Nat) (run : Run σ κ) :
    (run.advance patience).system.control.isSampling = run.system.control.isSampling :=
  (settles_advance patience run).isSampling_eq

theorem isSampling_answer (patience : Option Nat) (run : Run σ κ)
    (outcome : Except SensorError Sample) :
    (run.answer patience outcome).system.control.isSampling =
      run.system.control.isSampling := by
  unfold answer
  cases taken : run.turn? (some outcome) with
  | none => rfl
  | some next =>
      obtain ⟨turn, takes, rfl⟩ := turn?_eq_some_iff.mp taken
      exact (isSampling_advance patience _).trans takes.isSampling_eq

theorem Settles.advance_eq {patience : Option Nat} {run last : Run σ κ}
    (settles : Settles patience run last) : run.advance patience = last :=
  settles.eq (settles_advance patience run)

end Run

end Magnetometer.Lifecycle
