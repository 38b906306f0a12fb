import Magnetometer.Proofs.Calibration.Observed
import Magnetometer.Proofs.Lifecycle.Turn
import Magnetometer.Proofs.Store.Lawful

/-!
# Cycles without a sample

A driver that is activated and deactivated again before a sample is taken in.
What its session has to write is then what it restored: the axes that the store
held, and for each other axis the offset that the session had for it before.
A write can therefore fill in axes that the store did not hold, and changes none
that it held.
-/

namespace Magnetometer

open CalibrationStore (held)

namespace Session

/-- A restore takes over the axes that the load found. -/
theorem restoredFrom_eq (s : Session) (loaded : Except SensorError StoredOffset) :
    s.restoredFrom loaded = s.restoredFrom (.ok (.found loaded)) := by
  cases loaded with
  | ok stored => rfl
  | error error => rfl

/-- Taking over the same axes twice is taking them over once. -/
theorem restoredFrom_restoredFrom (s : Session) (axes : StoredOffset) :
    (s.restoredFrom (.ok axes)).restoredFrom (.ok axes) = s.restoredFrom (.ok axes) := by
  have again : (s.calibrator.restore axes).restore axes = s.calibrator.restore axes := by
    apply Triple.ext_get
    intro axis
    rw [Calibrator.get_restore, Calibrator.get_restore]
    cases axes.get axis with
    | none => rfl
    | some offset => rfl
  by_cases empty : StoredOffset.isEmpty axes = true
  · simp only [restoredFrom, if_pos empty]
  · simp only [restoredFrom, if_neg empty, again]

/-- The offset after a restore: the axes that were found, and for each other axis
the offset that the session had. -/
theorem get_offset_restoredFrom (s : Session) (axes : StoredOffset) (axis : Axis) :
    (s.restoredFrom (.ok axes)).offset.get axis =
      (axes.get axis).getD (s.offset.get axis) := by
  rw [get_offset, get_restoredFrom, get_offset]
  change ((s.calibrator.get axis).restore (axes.get axis)).offset = _
  cases axes.get axis with
  | none => rfl
  | some offset => rfl

theorem offset_restoredFrom_ofOffset (s : Session) (offset : HardIronOffset) :
    (s.restoredFrom (.ok (.ofOffset offset))).offset = offset := by
  apply Triple.ext_get
  intro axis
  rw [get_offset_restoredFrom, StoredOffset.ofOffset, Triple.get_map, Option.getD_some]

end Session

namespace Lifecycle

/-- Whether a thread that stands at a place has yet to load before it can write. -/
def Position.precedesLoad : Position → Bool
  | .parked | .loading | .gone => true
  | _ => false

/-- How far a thread has come that takes in no sample, from a session and from
the axes that the store held: where it stands, the session, and the axes that the
store holds. -/
inductive Unread (s : Session) (axes : StoredOffset) :
    Position → Session → StoredOffset → Prop
  | before {position : Position} (early : position.precedesLoad = true) :
      Unread s axes position s axes
  | restored (position : Position) :
      Unread s axes position (s.restoredFrom (.ok axes)) axes
  /-- Something was observed and written, and the store holds every axis. -/
  | written {t : Session} (position : Position)
      (observed : (s.restoredFrom (.ok axes)).calibrator.hasObservations = true)
      (still : t.calibrator.hasObservations = true)
      (offset_eq : t.offset = (s.restoredFrom (.ok axes)).offset) :
      Unread s axes position t (.ofOffset t.offset)

namespace Unread

variable {s t : Session} {axes now : StoredOffset} {position : Position}

/-- The thread may go from any place to one before a load, and anywhere from a
place after one. -/
theorem move (unread : Unread s axes position t now) {place : Position}
    (order : position.precedesLoad = true → place.precedesLoad = true) :
    Unread s axes place t now := by
  cases unread with
  | before early => exact .before (order early)
  | restored => exact .restored place
  | written _ observed still offset_eq => exact .written place observed still offset_eq

theorem load (unread : Unread s axes position t now) (place : Position) :
    Unread s axes place (t.restoredFrom (.ok now)) now := by
  cases unread with
  | before => exact .restored place
  | restored =>
      rw [Session.restoredFrom_restoredFrom]
      exact .restored place
  | written _ observed still offset_eq =>
      have written := Unread.written place observed
        (Session.hasObservations_restoredFrom still (.ok (.ofOffset t.offset)))
        ((Session.offset_restoredFrom_ofOffset t t.offset).trans offset_eq)
      rwa [Session.offset_restoredFrom_ofOffset] at written

variable {σ κ : Type} [CalibrationStore σ] [LawfulStore σ]

/-- A write puts the offset into the store or changes nothing. -/
theorem write {store : σ} (unread : Unread s axes position t (held store))
    (late : position.precedesLoad = false) (place : Position) :
    Unread s axes place t (held (t.persist store).store) := by
  have moved : Unread s axes place t (held store) := by
    apply unread.move
    rw [late]
    exact nofun
  unfold Session.persist
  split
  · rename_i observed
    change Unread s axes place t (held (CalibrationStore.save store t.offset).store)
    rcases LawfulStore.held_save_cases store t.offset with accepted | refused
    · rw [accepted]
      generalize held store = now at unread
      cases unread with
      | before early =>
          rw [late] at early
          contradiction
      | restored => exact .written place observed observed rfl
      | written _ before still offset_eq => exact .written place before still offset_eq
    · rw [refused]
      exact moved
  · exact moved

variable [EventSink κ]

/-- Every turn that takes in no sample goes on in this way. -/
theorem turn {sampler : Sampler κ} {control : Control} {store : σ} {surroundings : Surroundings}
    {turn : Turn σ κ} (unread : Unread s axes sampler.position sampler.session (held store))
    (takes : sampler.Takes control store surroundings turn)
    (none_read : ∀ sample, .ingest sample ∉ turn.actions) :
    Unread s axes turn.sampler.position turn.sampler.session (held turn.store) := by
  cases takes with
  | begin | leave | park => exact unread.move fun _ => rfl
  | load place =>
      obtain ⟨session_eq, loaded_eq, store_eq⟩ := Session.restore_eq sampler.session store
      rw [session_eq, store_eq, LawfulStore.held_load, Session.restoredFrom_eq]
      exact unread.load .starting
  | publish => exact absurd List.mem_cons_self (none_read _)
  | flush place | close place => exact unread.write (by rw [place]; rfl) _
  | beginRead place | endRead place | proceed place | discard place | fail place | rest place
  | stop place | serve place | awake place | mark place | settle place =>
      rw [place] at unread
      exact unread.move nofun

end Unread

/-- What a store may come to hold without a sample: every axis that it held it
holds with the same value, and it holds exactly what it held unless axes were
missing and something was observed, which fills in all of them. -/
structure Preserved (s : Session) (before after : StoredOffset) : Prop where
  kept : ∀ axis value, before.get axis = some value → after.get axis = some value
  whole : ∀ offset, before = .ofOffset offset → after = before
  unobserved : (s.restoredFrom (.ok before)).calibrator.hasObservations = false → after = before
  filled : after = before ∨
    ∀ axis, after.get axis = some ((before.get axis).getD (s.offset.get axis))

theorem Unread.preserved {s t : Session} {axes now : StoredOffset} {position : Position}
    (unread : Unread s axes position t now) : Preserved s axes now := by
  cases unread with
  | before | restored =>
      exact ⟨fun _ _ found => found, fun _ _ => rfl, fun _ => rfl, .inl rfl⟩
  | written _ observed still offset_eq =>
      have filled : ∀ axis, (StoredOffset.ofOffset t.offset).get axis =
          some ((axes.get axis).getD (s.offset.get axis)) := by
        intro axis
        rw [offset_eq, StoredOffset.ofOffset, Triple.get_map, Session.get_offset_restoredFrom]
      constructor
      case kept =>
        intro axis value found
        rw [filled, found, Option.getD_some]
      case whole =>
        rintro offset rfl
        rw [offset_eq, Session.offset_restoredFrom_ofOffset]
      case unobserved =>
        intro unobserved
        rw [observed] at unobserved
        contradiction
      case filled => exact .inr filled

variable {σ κ : Type} [CalibrationStore σ] [LawfulStore σ] [EventSink κ]

/-- Whatever a driver did before, and whatever its store holds: as long as it
takes in no sample and nobody else writes, no stored axis is lost or changed. -/
theorem preserved_of_run? {system : System σ κ} {moves : List Move} {last : Moved σ κ}
    (parked : system.sampler.position = .parked) (run : system.run? moves = some last)
    (alone : ∀ offset, .save offset ∉ moves)
    (none_read : ∀ sample, .ingest sample ∉ last.actions) :
    Preserved system.sampler.session (held system.store) (held last.system.store) := by
  have unread : (∀ sample, .ingest sample ∉ [] ++ last.actions) →
      Unread system.sampler.session (held system.store) last.system.sampler.position
        last.system.sampler.session (held last.system.store) := by
    refine System.run?_invariant_of_allowed (fun move => ∀ offset, move ≠ .save offset)
      (fun done next => (∀ sample, .ingest sample ∉ done) →
        Unread system.sampler.session (held system.store) next.sampler.position
          next.sampler.session (held next.store)) ?_ run ?_ fun _ => .before (by rw [parked]; rfl)
    · intro done next move moved unread allowed happens none_read
      simp only [List.mem_append, not_or] at none_read
      have unreadNow := unread fun sample => (none_read sample).1
      cases happens with
      | request => exact unreadNow
      | turn takes => exact unreadNow.turn takes fun sample => (none_read sample).2
      | save => exact absurd rfl (allowed _)
    · rintro move mem offset rfl
      exact alone offset mem
  exact (unread none_read).preserved

/-- The moves of a cycle in which one read comes to nothing. -/
def emptyCycle : List Move :=
  [.request .activate] ++ .replicate 3 (.turn ⟨0, 0, none⟩) ++
    [.turn ⟨0, 0, some (.error .notReady)⟩, .request .deactivate] ++
    .replicate 4 (.turn ⟨0, 0, none⟩)

/-- A new driver whose store holds one axis of three. -/
def partlyStored : System MemoryStore (List Event) :=
  .new .neutral (.ofStored ⟨some 5, none, none⟩) []

/-- The cycle takes in no sample, and after it the store holds all three axes. -/
theorem run?_emptyCycle :
    ∃ last, partlyStored.run? emptyCycle = some last ∧ last.system.sampler.position = .parked ∧
      last.actions = [.load (.ok ⟨some 5, none, none⟩), .beginRead, .endRead (.error .notReady),
        .check false, .persist (some ⟨5, 0, 0⟩)] ∧
      held last.system.store = ⟨some 5, some 0, some 0⟩ :=
  ⟨_, (Option.some_get rfl).symm, rfl, rfl, rfl⟩

/-- The axis that the store held before the cycle it holds after it. -/
theorem preserved_of_run?_emptyCycle :
    ∃ last, partlyStored.run? emptyCycle = some last ∧
      Preserved (.new .neutral) ⟨some 5, none, none⟩ (held last.system.store) := by
  obtain ⟨last, run, -, actions_eq, -⟩ := run?_emptyCycle
  have alone : ∀ offset, .save offset ∉ emptyCycle := by simp [emptyCycle]
  have none_read : ∀ sample, .ingest sample ∉ last.actions := by simp [actions_eq]
  exact ⟨last, run, preserved_of_run? rfl run alone none_read⟩

/-- A cycle without a sample may leave a store that holds more than before. -/
theorem not_held_eq_of_emptyCycle :
    ¬∀ (store : MemoryStore) (last : Moved MemoryStore (List Event)),
      (System.new .neutral store []).run? emptyCycle = some last →
        (∀ sample, .ingest sample ∉ last.actions) → held last.system.store = held store := by
  intro unchanged
  obtain ⟨last, run, -, actions_eq, held_eq⟩ := run?_emptyCycle
  have same := unchanged _ last run (by simp [actions_eq])
  rw [held_eq] at same
  cases same

end Lifecycle

end Magnetometer
