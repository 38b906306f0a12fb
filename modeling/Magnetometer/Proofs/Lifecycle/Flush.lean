import Magnetometer.Proofs.Lifecycle.Handshake

/-!
# Flushes and the writes that serve them

Callers number their flushes one after another, and the thread reports the
flushes up to a number served.  It writes while callers go on: a request may
come in the middle of a write, and the session that it was meant for may end
first.  `Account` relates the two numbers and the one that the thread carries
through a write; `writesOwed` counts the writes that have to come before a new
request may be reported served.  A request that is reported served is covered by
a write that began after every sample taken in before the request.
-/

namespace Magnetometer.Lifecycle

namespace Action

/-- Whether a sample was folded into the session. -/
def isIngest : Action → Bool
  | .ingest _ => true
  | _ => false

/-- Whether the session was written. -/
def isPersist : Action → Bool
  | .persist _ => true
  | _ => false

end Action

namespace Position

/-- The number of flushes that a write in progress is for. -/
def target? : Position → Option Nat
  | .flushing _ target | .marking _ target => some target
  | _ => none

/-- The number of writes that the thread makes from a place on before it reports
a new request to flush served.  A write in progress does not count, as the
thread has fixed before what that write is for; after its last write a session
has nothing to add. -/
def writesOwed : Position → Nat
  | .flushing _ _ => 2
  | .settling => 0
  | _ => 1

/-- The same for the request of a number, which the write in progress may be
for. -/
def writesOwedTo (number : Nat) : Position → Nat
  | .flushing _ target => if target < number then 2 else 1
  | .marking _ target => if target < number then 1 else 0
  | .settling => 0
  | _ => 1

theorem writesOwedTo_flushing (number deadline target : Nat) :
    writesOwedTo number (.flushing deadline target) =
      1 + writesOwedTo number (.marking deadline target) := by
  by_cases early : target < number
  · rw [writesOwedTo, writesOwedTo, if_pos early, if_pos early]
  · rw [writesOwedTo, writesOwedTo, if_neg early, if_neg early]

end Position

namespace Control

@[simp]
theorem flushesServed_submit (control : Control) (request : Request) :
    (control.submit request).control.flushesServed = control.flushesServed := by
  cases request with
  | activate => unfold submit activate; dsimp only; split <;> rfl
  | deactivate => unfold submit deactivate; dsimp only; split <;> rfl
  | flush => unfold submit flush; dsimp only; split <;> rfl
  | setDelay microseconds => unfold submit; dsimp only; split <;> rfl
  | shutdown => rfl

/-- Only a request to flush takes a number, and only while the driver samples. -/
theorem flushesRequested_submit (control : Control) (request : Request) :
    (control.submit request).control.flushesRequested =
      if request = .flush ∧ control.isSampling = true then control.flushesRequested + 1
      else control.flushesRequested := by
  cases request with
  | activate => unfold submit activate; dsimp only; split <;> rfl
  | deactivate => unfold submit deactivate; dsimp only; split <;> rfl
  | flush =>
      unfold submit flush
      by_cases sampling : control.isSampling = true
      · simp [sampling]
      · simp [sampling]
  | setDelay microseconds => unfold submit; dsimp only; split <;> rfl
  | shutdown => rfl

theorem flushesRequested_le_submit (control : Control) (request : Request) :
    control.flushesRequested ≤ (control.submit request).control.flushesRequested := by
  rw [flushesRequested_submit]
  split
  · exact Nat.le_succ _
  · exact Nat.le_refl _

end Control

namespace Sampler.Takes

variable {σ κ : Type} [CalibrationStore σ] [EventSink κ] {sampler : Sampler κ}
  {control : Control} {store : σ} {surroundings : Surroundings} {turn : Turn σ κ}

/-- Only callers number flushes. -/
theorem flushesRequested_eq (takes : sampler.Takes control store surroundings turn) :
    turn.control.flushesRequested = control.flushesRequested := by
  cases takes <;> rfl

end Sampler.Takes

/-! ## The account of flushes -/

/-- How the numbers of flushes and the place of the thread belong together. -/
structure Account (control : Control) (position : Position) : Prop where
  served_le : control.flushesServed ≤ control.flushesRequested
  /-- A write in progress is for no fewer flushes than are served. -/
  served_le_target : ∀ target, position.target? = some target → control.flushesServed ≤ target
  /-- A write in progress is for no more flushes than are asked for. -/
  target_le : ∀ target, position.target? = some target → target ≤ control.flushesRequested

namespace Account

theorem new : Account .new .parked where
  served_le := Nat.le_refl _
  served_le_target := nofun
  target_le := nofun

/-- A thread that is not in a write keeps the account. -/
theorem of_target?_eq_none {control : Control} {position : Position}
    (served_le : control.flushesServed ≤ control.flushesRequested)
    (writing : position.target? = none) : Account control position where
  served_le := served_le
  served_le_target target in_progress := by rw [writing] at in_progress; contradiction
  target_le target in_progress := by rw [writing] at in_progress; contradiction

theorem submit {control : Control} {position : Position} (account : Account control position)
    (request : Request) : Account (control.submit request).control position := by
  have more := control.flushesRequested_le_submit request
  constructor
  case served_le =>
    rw [Control.flushesServed_submit]
    exact Nat.le_trans account.served_le more
  case served_le_target =>
    rw [Control.flushesServed_submit]
    exact account.served_le_target
  case target_le =>
    intro target in_progress
    exact Nat.le_trans (account.target_le target in_progress) more

variable {σ κ : Type} [CalibrationStore σ] [EventSink κ]

theorem turn {sampler : Sampler κ} {control : Control} {store : σ} {surroundings : Surroundings}
    {turn : Turn σ κ} (account : Account control sampler.position)
    (takes : sampler.Takes control store surroundings turn) :
    Account turn.control turn.sampler.position := by
  have ordered := account.served_le
  cases takes with
  | serve place asked pending =>
      constructor
      case served_le => exact ordered
      case served_le_target =>
        rintro target ⟨⟩
        exact ordered
      case target_le =>
        rintro target ⟨⟩
        exact Nat.le_refl _
  | flush place =>
      rw [place] at account
      constructor
      case served_le => exact ordered
      case served_le_target =>
        rintro target ⟨⟩
        exact account.served_le_target _ rfl
      case target_le =>
        rintro target ⟨⟩
        exact account.target_le _ rfl
  | mark place =>
      rw [place] at account
      exact .of_target?_eq_none (account.target_le _ rfl) rfl
  | settle place => exact .of_target?_eq_none (Nat.le_refl _) rfl
  | begin | leave | park | load | beginRead | endRead | proceed | discard | publish | fail | rest
  | stop | awake | close => exact .of_target?_eq_none ordered rfl

/-- Every move keeps the account. -/
theorem happens {system : System σ κ} {move : Move} {moved : Moved σ κ}
    (account : Account system.control system.sampler.position)
    (happens : system.Happens move moved) :
    Account moved.system.control moved.system.sampler.position := by
  cases happens with
  | request held => exact account.submit _
  | turn takes => exact account.turn takes
  | save => exact account

/-- No move takes back a request or a report. -/
theorem le_of_happens {system : System σ κ} {move : Move} {moved : Moved σ κ}
    (account : Account system.control system.sampler.position)
    (happens : system.Happens move moved) :
    system.control.flushesServed ≤ moved.system.control.flushesServed ∧
      system.control.flushesRequested ≤ moved.system.control.flushesRequested := by
  cases happens with
  | request held =>
      exact ⟨Nat.le_of_eq (Control.flushesServed_submit _ _).symm,
        Control.flushesRequested_le_submit _ _⟩
  | save => exact ⟨Nat.le_refl _, Nat.le_refl _⟩
  | turn takes =>
      cases takes with
      | mark place =>
          rw [place] at account
          exact ⟨account.served_le_target _ rfl, Nat.le_refl _⟩
      | settle place => exact ⟨account.served_le, Nat.le_refl _⟩
      | _ => exact ⟨Nat.le_refl _, Nat.le_refl _⟩

/-- Both numbers only go up over a run, which keeps the account. -/
theorem run? {system : System σ κ} {moves : List Move} {last : Moved σ κ}
    (account : Account system.control system.sampler.position)
    (run : system.run? moves = some last) :
    Account last.system.control last.system.sampler.position ∧
      system.control.flushesServed ≤ last.system.control.flushesServed ∧
      system.control.flushesRequested ≤ last.system.control.flushesRequested := by
  refine System.run?_invariant_of_nil (fun _ next =>
    Account next.control next.sampler.position ∧
      system.control.flushesServed ≤ next.control.flushesServed ∧
      system.control.flushesRequested ≤ next.control.flushesRequested) ?_ run
    ⟨account, Nat.le_refl _, Nat.le_refl _⟩
  rintro done next move moved ⟨accountNow, served, requested⟩ happens
  obtain ⟨servedNext, requestedNext⟩ := accountNow.le_of_happens happens
  exact ⟨accountNow.happens happens, Nat.le_trans served servedNext,
    Nat.le_trans requested requestedNext⟩

end Account

/-! ## Requests in a run -/

variable {σ κ : Type} [CalibrationStore σ] [EventSink κ]

/-- A run in which a flush is asked for: what it came to until a caller asked for
the flush of a number, and what came of it from then on. -/
structure Asks (start : System σ κ) (moves : List Move) (number : Nat) (asked later : Moved σ κ) :
    Prop where
  split : ∃ before after, moves = before ++ .request .flush :: after ∧
    start.run? before = some asked ∧ (asked.system.request .flush).run? after = some later
  sampling : asked.system.control.isSampling = true
  number_eq : asked.system.control.flushesRequested + 1 = number

/-- What was done before and after the request is all that the run did. -/
theorem Asks.last_eq {start : System σ κ} {moves : List Move} {number : Nat}
    {asked later last : Moved σ κ} (asks : Asks start moves number asked later)
    (run : start.run? moves = some last) :
    last.system = later.system ∧ last.actions = asked.actions ++ later.actions := by
  obtain ⟨before, after, rfl, reached, onward⟩ := asks.split
  obtain ⟨middle, final, again, rest, rfl⟩ := System.run?_append_eq_some_iff.mp run
  cases Option.some.inj (reached.symm.trans again)
  obtain ⟨first, tail, moved, runs, rfl⟩ := System.run?_cons_eq_some_iff.mp rest
  cases System.move?_eq_some_iff.mp moved with
  | request held =>
      cases Option.some.inj (onward.symm.trans runs)
      exact ⟨rfl, rfl⟩

/-- Every flush that was numbered in a run was asked for in it. -/
theorem exists_asks {system : System σ κ} {moves : List Move} {last : Moved σ κ}
    (run : system.run? moves = some last) {number : Nat}
    (above : system.control.flushesRequested < number)
    (below : number ≤ last.system.control.flushesRequested) :
    ∃ asked later, Asks system moves number asked later := by
  induction moves generalizing system last with
  | nil =>
      cases run
      exact absurd above (Nat.not_lt.mpr below)
  | cons move rest ih =>
      obtain ⟨first, final, moved, runs, rfl⟩ := System.run?_cons_eq_some_iff.mp run
      by_cases now : first.system.control.flushesRequested < number
      · obtain ⟨asked, later, ⟨before, after, rfl, reached, onward⟩, sampling, number_eq⟩ :=
          ih runs now below
        refine ⟨⟨asked.system, first.actions ++ asked.actions, first.notices ++ asked.notices⟩,
          later, ⟨⟨move :: before, after, rfl, ?_, onward⟩, sampling, number_eq⟩⟩
        exact System.run?_cons_eq_some_iff.mpr ⟨first, asked, moved, reached, rfl⟩
      · have numbered := Nat.not_lt.mp now
        cases System.move?_eq_some_iff.mp moved with
        | @request request held =>
            change number ≤ (system.control.submit request).control.flushesRequested at numbered
            rw [Control.flushesRequested_submit] at numbered
            split at numbered
            · rename_i flush
              obtain ⟨rfl, sampling⟩ := flush
              exact ⟨⟨system, [], []⟩, final, ⟨[], rest, rfl, rfl, runs⟩, sampling,
                Nat.le_antisymm above numbered⟩
            · exact absurd above (Nat.not_lt.mpr numbered)
        | save => exact absurd above (Nat.not_lt.mpr numbered)
        | @turn surroundings turn takes =>
            change number ≤ turn.control.flushesRequested at numbered
            rw [takes.flushesRequested_eq] at numbered
            exact absurd above (Nat.not_lt.mpr numbered)

/-! ## Writes before a report -/

/-- How far the thread is from reporting the request of a number served: it has
made the writes that were owed, or it has not reported and still owes the rest. -/
structure Awaits (number owed : Nat) (done : List Action) (system : System σ κ) : Prop where
  account : Account system.control system.sampler.position
  asked : number ≤ system.control.flushesRequested
  pending : owed ≤ done.countP Action.isPersist ∨
    system.control.flushesServed < number ∧
      owed ≤ done.countP Action.isPersist + system.sampler.position.writesOwedTo number

namespace Awaits

variable {number owed : Nat} {done : List Action} {system : System σ κ}

/-- A turn makes a write that was owed, or it owes no less after it; the turn
that reports the request owes nothing. -/
theorem pending_turn {surroundings : Surroundings} {turn : Turn σ κ}
    (awaits : Awaits number owed done system)
    (takes : system.sampler.Takes system.control system.store surroundings turn) :
    owed ≤ (done ++ turn.actions).countP Action.isPersist ∨
      turn.control.flushesServed < number ∧
        owed ≤ (done ++ turn.actions).countP Action.isPersist +
          turn.sampler.position.writesOwedTo number := by
  rw [List.countP_append]
  rcases awaits.pending with made | ⟨unserved, owing⟩
  · exact .inl (Nat.le_add_right_of_le made)
  · cases takes with
    | @serve deadline place asked pending =>
        rw [place] at owing
        have fixed : Position.writesOwedTo number
            (.flushing deadline system.control.flushesRequested) = 1 :=
          if_neg (Nat.not_lt.mpr awaits.asked)
        rw [Sampler.sampler_go, Sampler.position_move, fixed]
        exact .inr ⟨unserved, owing⟩
    | flush place =>
        rw [place, Position.writesOwedTo_flushing, ← Nat.add_assoc] at owing
        exact .inr ⟨unserved, owing⟩
    | @mark deadline target place =>
        rw [place] at owing
        -- A write that was begun for earlier requests leaves this one unserved.
        by_cases early : target < number
        · rw [Position.writesOwedTo, if_pos early] at owing
          exact .inr ⟨early, owing⟩
        · rw [Position.writesOwedTo, if_neg early] at owing
          exact .inl owing
    | close place =>
        rw [place] at owing
        exact .inr ⟨unserved, owing⟩
    | settle place =>
        rw [place] at owing
        exact .inl owing
    | begin place | leave place | park place | load place | beginRead place | endRead place
    | proceed place | discard place | publish place | fail place | rest place | stop place
    | awake place =>
        rw [place] at owing
        exact .inr ⟨unserved, owing⟩

theorem happens {move : Move} {moved : Moved σ κ} (awaits : Awaits number owed done system)
    (happens : system.Happens move moved) :
    Awaits number owed (done ++ moved.actions) moved.system := by
  constructor
  case account => exact awaits.account.happens happens
  case asked => exact Nat.le_trans awaits.asked (awaits.account.le_of_happens happens).2
  case pending =>
    cases happens with
    | request held =>
        rw [List.append_nil, System.control_request, Control.flushesServed_submit]
        exact awaits.pending
    | turn takes => exact awaits.pending_turn takes
    | save =>
        rw [List.append_nil]
        exact awaits.pending

omit [CalibrationStore σ] [EventSink κ] in
/-- From a request on, the thread reports it only after the writes that it owed
where it stood at the request. -/
theorem of_request (account : Account system.control system.sampler.position)
    (sampling : system.control.isSampling = true) :
    Awaits (system.control.flushesRequested + 1) system.sampler.position.writesOwed []
      (system.request .flush) := by
  constructor
  case account => exact account.submit .flush
  case asked =>
    apply Nat.le_of_eq
    rw [System.control_request, Control.flushesRequested_submit, if_pos ⟨rfl, sampling⟩]
  case pending =>
    refine .inr ⟨?_, ?_⟩
    · rw [System.control_request, Control.flushesServed_submit]
      exact Nat.lt_succ_of_le account.served_le
    · rw [System.sampler_request, List.countP_nil, Nat.zero_add]
      have fixed := account.target_le
      cases place : system.sampler.position with
      | flushing deadline target | marking deadline target =>
          rw [place] at fixed
          rw [Position.writesOwedTo, if_pos (Nat.lt_succ_of_le (fixed target rfl))]
          exact Nat.le_refl _
      | _ => exact Nat.le_refl _

end Awaits

/-- After the last write of a session nothing is done before the thread parks. -/
theorem persisted_of_settling {sensitivity : Sensitivity} {store : σ} {sink : κ}
    {moves : List Move} {last : Moved σ κ}
    (run : (System.new sensitivity store sink).run? moves = some last)
    (settling : last.system.sampler.position = .settling) :
    ∃ front offered, last.actions = front ++ [.persist offered] := by
  refine System.run?_invariant_of_turn (fun done sampler => sampler.position = .settling →
    ∃ front offered, done = front ++ [.persist offered]) ?_ run nofun settling
  intro done sampler control store surroundings turn _ takes closed
  exact ⟨done, _, by rw [takes.actions_of_settling closed]⟩

/-- What a report that a flush is served stands for. -/
structure Covered (asked later : Moved σ κ) : Prop where
  /-- Some write came after every sample that was taken in before the request. -/
  written : ∃ front offered back,
    asked.actions ++ later.actions = front ++ .persist offered :: back ∧
      asked.actions.countP Action.isIngest ≤ front.countP Action.isIngest
  /-- The writes that were owed at the request came after it: two of them if it
  came in the middle of a write. -/
  owed : asked.system.sampler.position.writesOwed ≤ later.actions.countP Action.isPersist

theorem Covered.of_owed {sensitivity : Sensitivity} {store : σ} {sink : κ} {moves : List Move}
    {asked later : Moved σ κ} (run : (System.new sensitivity store sink).run? moves = some asked)
    (owed : asked.system.sampler.position.writesOwed ≤ later.actions.countP Action.isPersist) :
    Covered asked later := by
  refine ⟨?_, owed⟩
  by_cases settling : asked.system.sampler.position = .settling
  · obtain ⟨front, offered, actions_eq⟩ := persisted_of_settling run settling
    refine ⟨front, offered, later.actions, by rw [actions_eq, List.append_assoc]; rfl, ?_⟩
    rw [actions_eq, List.countP_append]
    exact Nat.le_refl _
  · have some_owed : 0 < asked.system.sampler.position.writesOwed := by
      cases place : asked.system.sampler.position with
      | settling => exact absurd place settling
      | flushing => exact Nat.two_pos
      | _ => exact Nat.one_pos
    obtain ⟨write, mem, persisted⟩ := List.countP_pos_iff.mp (Nat.lt_of_lt_of_le some_owed owed)
    obtain ⟨front, back, later_eq⟩ := List.append_of_mem mem
    cases write with
    | persist offered =>
        refine ⟨asked.actions ++ front, offered, back, by rw [later_eq, List.append_assoc], ?_⟩
        rw [List.countP_append]
        exact Nat.le_add_right _ _
    | _ => contradiction

/-- The flushes of a run: no more are served than were asked for, neither number
ever went down, and every flush up to the number that is served was asked for at
some point of the run and is covered by a write. -/
structure Accounted (start : System σ κ) (moves : List Move) (last : Moved σ κ) : Prop where
  served_le : last.system.control.flushesServed ≤ last.system.control.flushesRequested
  upwards : ∀ before after, moves = before ++ after →
    ∃ middle, start.run? before = some middle ∧
      middle.system.control.flushesServed ≤ last.system.control.flushesServed ∧
      middle.system.control.flushesRequested ≤ last.system.control.flushesRequested
  covered : ∀ number, 0 < number → number ≤ last.system.control.flushesServed →
    ∃ asked later, Asks start moves number asked later ∧ Covered asked later

/-- Whatever the callers ask for, and whenever the thread takes its turns, a flush
is reported served only after a write that covers it. -/
theorem accounted_of_run? (sensitivity : Sensitivity) (store : σ) (sink : κ)
    {moves : List Move} {last : Moved σ κ}
    (run : (System.new sensitivity store sink).run? moves = some last) :
    Accounted (System.new sensitivity store sink) moves last := by
  have account : Account (System.new sensitivity store sink).control
      (System.new sensitivity store sink).sampler.position := .new
  constructor
  case served_le => exact (account.run? run).1.served_le
  case upwards =>
    rintro before after rfl
    obtain ⟨middle, final, reached, onward, rfl⟩ := System.run?_append_eq_some_iff.mp run
    exact ⟨middle, reached, ((account.run? reached).1.run? onward).2⟩
  case covered =>
    intro number positive served
    obtain ⟨asked, later, asks⟩ :=
      exists_asks run positive (Nat.le_trans served (account.run? run).1.served_le)
    refine ⟨asked, later, asks, ?_⟩
    rw [(asks.last_eq run).1] at served
    obtain ⟨⟨before, after, rfl, reached, onward⟩, sampling, rfl⟩ := asks
    have awaits := System.run?_invariant_of_nil (Awaits _ _)
      (fun _ _ _ _ holds moved => holds.happens moved) onward
      (.of_request (account.run? reached).1 sampling)
    rcases awaits.pending with made | ⟨unserved, -⟩
    · exact .of_owed reached made
    · exact absurd served (Nat.not_le.mpr unserved)

/-- A second flush is asked for in the middle of the write for the first one, and
both are served in the end. -/
theorem accounted_of_run?_overlap :
    ∃ last, (System.new .neutral (MemoryStore.ofStored .empty) ([] : List Event)).run?
        ([.request .activate] ++ .replicate 3 (.turn ⟨0, 0, none⟩) ++
          [.turn ⟨5, 0, some (.ok ⟨1, 2, 3⟩)⟩] ++ .replicate 3 (.turn ⟨7, 0, none⟩) ++
          [.request .flush, .turn ⟨7, 0, none⟩, .request .flush] ++
          .replicate 5 (.turn ⟨7, 0, none⟩)) = some last ∧
      last.system.control.flushesServed = 2 ∧
      Accounted (System.new .neutral (MemoryStore.ofStored .empty) ([] : List Event))
        ([.request .activate] ++ .replicate 3 (.turn ⟨0, 0, none⟩) ++
          [.turn ⟨5, 0, some (.ok ⟨1, 2, 3⟩)⟩] ++ .replicate 3 (.turn ⟨7, 0, none⟩) ++
          [.request .flush, .turn ⟨7, 0, none⟩, .request .flush] ++
          .replicate 5 (.turn ⟨7, 0, none⟩)) last :=
  ⟨_, (Option.some_get rfl).symm, rfl, accounted_of_run? _ _ _ (Option.some_get rfl).symm⟩

end Magnetometer.Lifecycle
