import Magnetometer.Proofs.Lifecycle.Reload
import Magnetometer.Proofs.Lifecycle.Trace
import Magnetometer.Proofs.Recent

/-!
# What a published vector averages over

The ring of recent samples lives as long as the driver: a load restores the
calibration and leaves the ring alone.  So a vector is the mean of the last four
samples that were taken in since the driver was made, and only once four of them
were taken in after the last load are they all of that session.
-/

namespace Magnetometer.Lifecycle

open Recent (window Averages)

/-! ## Samples of a trace -/

/-- The sample that an action takes in. -/
def Action.sample? : Action → Option Sample
  | .ingest sample => some sample
  | _ => none

/-- The samples that a trace takes in. -/
def taken (did : List Action) : List Sample := did.filterMap Action.sample?

theorem taken_append (did more : List Action) : taken (did ++ more) = taken did ++ taken more :=
  List.filterMap_append

/-- The ring records the samples that are taken in, and nothing else. -/
theorem recent_foldl_follow (s : Session) (did : List Action) :
    (did.foldl follow s).recent = (taken did).foldl Recent.record s.recent := by
  induction did generalizing s with
  | nil => rfl
  | cons action rest ih =>
      rw [List.foldl_cons, ih]
      cases action with
      | load loaded =>
          exact congrArg ((taken rest).foldl Recent.record) (s.recent_restoredFrom loaded)
      | _ => rfl

/-- The last few samples of a sequence and of one that goes on from it. -/
theorem window_append (samples more : List Sample) :
    window (samples ++ more) = samples.rtake (ringSize - more.length) ++ window more := by
  unfold Recent.window List.rtake
  rw [List.length_append, List.drop_append]
  rcases Nat.le_total ringSize more.length with enough | few
  · rw [Nat.sub_eq_zero_of_le enough, Nat.sub_zero, List.drop_length, List.drop_of_length_le]
    · congr 2
      omega
    · omega
  · congr 2 <;> omega

/-- The last few samples are all of the part that goes on if there are enough of
them in it, or none before it. -/
theorem window_append_eq_iff (samples more : List Sample) :
    window (samples ++ more) = window more ↔ ringSize ≤ more.length ∨ samples = [] := by
  rw [window_append, List.append_left_eq_self, List.rtake, List.drop_eq_nil_iff,
    ← List.length_eq_zero_iff]
  omega

/-! ## Sources of events -/

/-- Every event of a trace comes after a load and is that of the session at that
point. -/
def Sourced (s : Session) (did : List Action) : Prop :=
  ∀ front event back, did = front ++ .emit event :: back →
    (∃ loaded, .load loaded ∈ front) ∧
      ∃ timestamp, (front.foldl follow s).event? timestamp = some event

variable {σ κ : Type} [CalibrationStore σ] [EventSink κ]

omit [CalibrationStore σ] [EventSink κ] in
theorem Sourced.append {s : Session} {did more : List Action} (sourced : Sourced s did)
    (silent : ∀ event, .emit event ∉ more) : Sourced s (did ++ more) := by
  intro front event back split
  rcases split_cases split with ⟨rest, did_eq⟩ | ⟨middle, -, more_eq⟩
  · exact sourced front event rest did_eq
  · refine absurd ?_ (silent event)
    rw [more_eq]
    exact List.mem_append_right _ List.mem_cons_self

theorem Sourced.turn {s : Session} {did : List Action} {sampler : Sampler κ} {control : Control}
    {store : σ} {surroundings : Surroundings} {turn : Turn σ κ} (sourced : Sourced s did)
    (traced : Traced s did sampler) (takes : sampler.Takes control store surroundings turn) :
    Sourced s (did ++ turn.actions) := by
  cases takes with
  | @publish started sample fresh place published =>
      intro front event back split
      rcases split_cases split with ⟨rest, did_eq⟩ | ⟨middle, rfl, more_eq⟩
      · exact sourced front event rest did_eq
      · obtain ⟨rfl, rfl⟩ : middle = [.ingest sample] ∧ fresh = event := by
          match middle with
          | [] | [_] | _ :: _ :: _ => simp_all
        obtain ⟨finished, part, start, rfl, -, stands⟩ := id traced
        rw [place] at stands
        obtain ⟨loaded, reads, -, rfl⟩ := stands
        refine ⟨⟨loaded, by simp⟩, surroundings.clock, ?_⟩
        rw [List.foldl_append, traced.disciplined.1.session_eq]
        exact published
  | begin | leave | park | load | beginRead | endRead | proceed | discard | fail | rest | stop
  | serve | awake | flush | mark | close | settle => exact sourced.append (by simp)

/-- Among some actions with a load there is a last one. -/
theorem exists_lastLoad {did : List Action} {loaded : Except SensorError StoredOffset}
    (mem : .load loaded ∈ did) :
    ∃ earlier last since, did = earlier ++ .load last :: since ∧ ∀ other, .load other ∉ since := by
  induction did generalizing loaded with
  | nil => exact absurd mem List.not_mem_nil
  | cons action rest ih =>
      by_cases later : ∃ loaded, .load loaded ∈ rest
      · obtain ⟨loaded, mem⟩ := later
        obtain ⟨earlier, last, since, rfl, none⟩ := ih mem
        exact ⟨action :: earlier, last, since, rfl, none⟩
      · rcases List.mem_cons.mp mem with rfl | mem
        · exact ⟨[], loaded, rest, rfl, fun other mem => later ⟨other, mem⟩⟩
        · exact absurd ⟨loaded, mem⟩ later

theorem sourced_of_run? {sensitivity : Sensitivity} {store : σ} {sink : κ} {moves : List Move}
    {last : Moved σ κ} (run : (System.new sensitivity store sink).run? moves = some last) :
    Sourced (.new sensitivity) last.actions := by
  have start : Traced (.new sensitivity) [] (System.new sensitivity store sink).sampler :=
    ⟨[], [], _, rfl, .none, ⟨rfl, rfl⟩⟩
  have kept := System.run?_invariant_of_turn
    (fun did sampler => Traced (.new sensitivity) did sampler ∧ Sourced (.new sensitivity) did)
    (fun _ _ _ _ _ _ holds takes => ⟨holds.1.turn takes, holds.2.turn holds.1 takes⟩) run
    ⟨start, by simp [Sourced]⟩
  exact kept.2

/-- In every run each published vector is the mean of the last few samples that
were taken in since the driver was made.  Of the samples before the last load it
has as many as that load has too few after it, so that it is the mean of the
samples of its own session if and only if that session has enough of them or is
the first to take one in. -/
theorem averages_of_run? {sensitivity : Sensitivity} {store : σ} {sink : κ} {moves : List Move}
    {last : Moved σ κ} (run : (System.new sensitivity store sink).run? moves = some last)
    {front back : List Action} {event : Event}
    (split : last.actions = front ++ .emit event :: back) :
    ∃ earlier loaded since, front = earlier ++ .load loaded :: since ∧
      (∀ other, .load other ∉ since) ∧
      Averages (front.foldl follow (.new sensitivity)).calibrator (window (taken front))
        event.vector ∧
      window (taken front) =
        (taken earlier).rtake (ringSize - (taken since).length) ++ window (taken since) ∧
      (window (taken front) = window (taken since) ↔
        ringSize ≤ (taken since).length ∨ taken earlier = []) := by
  obtain ⟨⟨loaded, mem⟩, timestamp, found⟩ := sourced_of_run? run front event back split
  obtain ⟨earlier, loaded, since, rfl, own⟩ := exists_lastLoad mem
  have all : taken (earlier ++ .load loaded :: since) = taken earlier ++ taken since :=
    taken_append _ _
  refine ⟨earlier, loaded, since, rfl, own, ?_, ?_, ?_⟩
  · obtain ⟨vector, vector_eq, rfl⟩ := Option.map_eq_some_iff.mp found
    rw [recent_foldl_follow] at vector_eq
    exact (Recent.holds_foldl _).averages vector_eq
  · rw [all, window_append]
  · rw [all, window_append_eq_iff]

/-- The moves of two sessions of one sample each. -/
def twoSessions : List Move :=
  [.request .activate, .turn ⟨0, 0, none⟩, .turn ⟨0, 0, none⟩, .turn ⟨0, 0, none⟩,
    .turn ⟨0, 0, some (.ok ⟨1000, 0, 0⟩)⟩, .turn ⟨0, 0, none⟩, .turn ⟨0, 0, none⟩,
    .turn ⟨0, 0, none⟩, .request .deactivate, .turn ⟨0, 0, none⟩, .turn ⟨0, 0, none⟩,
    .turn ⟨0, 0, none⟩, .request .activate, .turn ⟨0, 0, none⟩, .turn ⟨0, 0, none⟩,
    .turn ⟨0, 0, none⟩, .turn ⟨0, 0, some (.ok ⟨100, 0, 0⟩)⟩, .turn ⟨0, 0, none⟩,
    .turn ⟨0, 0, none⟩]

/-- The event of a field on the x axis. -/
def eventOfField (x : Number.Single) : Event := ⟨0, ⟨⟨x, ⟨false, 0⟩, ⟨false, 0⟩⟩, .medium⟩⟩

/-- What the two sessions do before the second event. -/
def beforeSecond : List Action :=
  [.load (.ok .empty), .beginRead, .endRead (.ok ⟨1000, 0, 0⟩), .check true,
    .ingest ⟨1000, 0, 0⟩, .emit (eventOfField ⟨false, 0x43160000⟩), .persist (some .zero),
    .load (.ok (.ofOffset .zero)), .beginRead, .endRead (.ok ⟨100, 0, 0⟩), .check true,
    .ingest ⟨100, 0, 0⟩]

set_option maxRecDepth 4000 in
/-- The second event has a field of 82.5 microtesla, from a mean of 550 counts. -/
theorem run?_twoSessions :
    ∃ last, (System.new .neutral (MemoryStore.ofStored .empty) ([] : List Event)).run?
        twoSessions = some last ∧
      last.actions = beforeSecond ++ [.emit (eventOfField ⟨false, 0x42a50000⟩)] :=
  ⟨_, (Option.some_get rfl).symm, rfl⟩

/-- The vector of the second session is a mean of two samples, one from each. -/
theorem averages_of_run?_twoSessions :
    ∃ last, (System.new .neutral (MemoryStore.ofStored .empty) ([] : List Event)).run?
        twoSessions = some last ∧
      last.actions = beforeSecond ++ .emit (eventOfField ⟨false, 0x42a50000⟩) :: [] ∧
      window (taken beforeSecond) = [⟨1000, 0, 0⟩, ⟨100, 0, 0⟩] ∧
      Averages (beforeSecond.foldl follow (.new .neutral)).calibrator
        (window (taken beforeSecond)) (eventOfField ⟨false, 0x42a50000⟩).vector := by
  obtain ⟨last, run, actions_eq⟩ := run?_twoSessions
  obtain ⟨-, -, -, -, -, averages, -⟩ := averages_of_run? run actions_eq
  exact ⟨last, run, actions_eq, rfl, averages⟩

/-- A published vector need not be a mean of samples of its own session. -/
theorem not_averages_of_twoSessions :
    ¬∀ (last : Moved MemoryStore (List Event)) (earlier since back : List Action)
        (loaded : Except SensorError StoredOffset) (event : Event),
      (System.new .neutral (MemoryStore.ofStored .empty) []).run? twoSessions = some last →
        last.actions = (earlier ++ .load loaded :: since) ++ .emit event :: back →
        (∀ other, .load other ∉ since) →
        Averages ((earlier ++ .load loaded :: since).foldl follow (.new .neutral)).calibrator
          (window (taken since)) event.vector := by
  intro own
  obtain ⟨last, run, actions_eq⟩ := run?_twoSessions
  have averages := own last (beforeSecond.take 7) (beforeSecond.drop 8) [] (.ok (.ofOffset .zero))
    (eventOfField ⟨false, 0x42a50000⟩) run actions_eq (by simp [beforeSecond])
  have field := averages.field .x
  revert field
  decide +kernel

end Magnetometer.Lifecycle
