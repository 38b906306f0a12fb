import Magnetometer.Daemon.Basic
import Magnetometer.Proofs.Lifecycle.Release

/-!
# Schedules of a daemon

The daemon and its sampling thread take turns as it comes: between two requests
the thread takes any number of turns, reads from the device when it is in a read,
and the clocks move.  `Reaches` is what such a schedule leads to with the requests
that were made on the way.  The daemon that runs follows one of these schedules,
and whatever the schedule was, a daemon that is released comes to its end.
-/

namespace Magnetometer.Daemon.State

open Lifecycle

/-! ## Steps -/

/-- Hand a request in. -/
def hand (state : State) (request : Request) : State :=
  { state with run := state.run.request request }

/-- What may happen to a daemon without a request. -/
inductive Step (state : State) : State → Prop
  | turn {run : Run FileStore AnySink} (taken : state.run.turn? none = some run) :
      Step state ⟨run, state.device⟩
  | read {run : Run FileStore AnySink} (reading : state.run.isReading = true)
      (taken : state.run.turn? (some (state.device.acquire state.run.system.store.files).2) =
        some run) :
      Step state ⟨run, (state.device.acquire state.run.system.store.files).1⟩
  | pass (clock : ManualClock) (instant : Nat) :
      Step state ⟨{ state.run with clock := clock, instant := instant }, state.device⟩

/-- What a daemon may come to with some requests, the oldest one first. -/
inductive Reaches (state : State) : List Request → State → Prop
  | refl : Reaches state [] state
  | step {requests : List Request} {middle last : State} (reaches : Reaches state requests middle)
      (step : middle.Step last) : Reaches state requests last
  | hand {requests : List Request} {middle : State} (reaches : Reaches state requests middle)
      (request : Request) : Reaches state (requests ++ [request]) (middle.hand request)

variable {state middle last : State} {requests more : List Request}

theorem Reaches.trans (first : state.Reaches requests middle) (second : middle.Reaches more last) :
    state.Reaches (requests ++ more) last := by
  induction second with
  | refl =>
      rw [List.append_nil]
      exact first
  | step _ step ih => exact ih.step step
  | hand _ request ih =>
      rw [← List.append_assoc]
      exact ih.hand request

/-- What every step and every allowed request keeps holds of all that is reached
with allowed requests. -/
theorem Reaches.keeps {Allowed : Request → Prop} {Holds : State → Prop}
    (reaches : state.Reaches requests last) (allowed : ∀ request ∈ requests, Allowed request)
    (step : ∀ ⦃middle next⦄, Holds middle → middle.Step next → Holds next)
    (hand : ∀ ⦃middle request⦄, Holds middle → Allowed request → Holds (middle.hand request))
    (start : Holds state) : Holds last := by
  induction reaches with
  | refl => exact start
  | step _ taken ih => exact step (ih allowed) taken
  | hand _ request ih =>
      rw [List.forall_mem_append, List.forall_mem_singleton] at allowed
      exact hand (ih allowed.1) allowed.2

/-! ## The schedule of a run -/

theorem reaches_of_settles {run final : Run FileStore AnySink} (settles : run.Settles none final)
    (device : Device) : Reaches ⟨run, device⟩ [] ⟨final, device⟩ := by
  induction settles with
  | rest => exact .refl
  | turn taken _ ih => exact (Reaches.refl.step (.turn taken)).trans ih
  | @sleep run next final _ slept _ ih =>
      obtain ⟨deadline, -, -, rfl⟩ := Run.sleep?_eq_some_iff.mp slept
      have passed : Step ⟨run, device⟩ ⟨{ run with instant := max run.instant deadline }, device⟩ :=
        .pass run.clock _
      exact (Reaches.refl.step passed).trans ih

theorem reaches_advance (state : State) :
    state.Reaches [] ⟨state.run.advance none, state.device⟩ :=
  reaches_of_settles (Run.settles_advance none state.run) state.device

/-- A read that comes to its end is a step, and the thread goes on after it. -/
theorem exists_step_read (reading : state.run.isReading = true) :
    ∃ run : Run FileStore AnySink,
      state.Step ⟨run, (state.device.acquire state.run.system.store.files).1⟩ ∧
        state.read =
          ⟨run.advance none, (state.device.acquire state.run.system.store.files).1⟩ := by
  obtain ⟨started, place⟩ := Run.isReading_eq_true_iff.mp reading
  refine ⟨_, .read reading (Run.turn?_eq_some_iff.mpr ⟨_, .endRead place rfl, rfl⟩), ?_⟩
  unfold read
  dsimp only
  rw [Run.answer_of_reading place]

theorem reaches_read (reading : state.run.isReading = true) : state.Reaches [] state.read := by
  obtain ⟨run, step, read_eq⟩ := exists_step_read reading
  rw [read_eq]
  exact (Reaches.refl.step step).trans (reaches_advance _)

/-- A read in progress comes to its end when a request is handed in. -/
theorem ask_of_reading (reading : state.run.isReading = true) (request : Request) :
    state.ask request = (state.hand request).read := if_pos reading

theorem ask_of_idle (idle : state.run.isReading = false) (request : Request) :
    state.ask request = ⟨(state.hand request).run.advance none, state.device⟩ := by
  refine if_neg ?_
  change ¬state.run.isReading = true
  rw [idle]
  exact Bool.false_ne_true

theorem reaches_ask (state : State) (request : Request) :
    state.Reaches [request] (state.ask request) := by
  have handed : state.Reaches [request] (state.hand request) := Reaches.refl.hand request
  cases reading : state.run.isReading with
  | true =>
      rw [ask_of_reading reading]
      exact handed.trans (reaches_read reading)
  | false =>
      rw [ask_of_idle reading]
      exact handed.trans (reaches_advance (state.hand request))

/-! ## The end of a daemon -/

theorem Step.requested_eq (step : state.Step last) :
    last.run.system.control.requested = state.run.system.control.requested := by
  cases step with
  | turn taken | read _ taken =>
      obtain ⟨turn, takes, rfl⟩ := Run.turn?_eq_some_iff.mp taken
      exact takes.requested_eq
  | pass => rfl

/-- A daemon whose last request was to release it is being released. -/
theorem Reaches.requested_eq_shutdown (reaches : state.Reaches (requests ++ [.shutdown]) last) :
    last.run.system.control.requested = .shutdown := by
  generalize made : requests ++ [Request.shutdown] = all at reaches
  induction reaches with
  | refl => simp at made
  | step _ step ih => exact step.requested_eq.trans (ih made)
  | hand =>
      rw [← List.singleton_inj.mp (List.append_inj' made rfl).2]
      exact Control.requested_submit _ .shutdown

/-- A daemon that is being released goes on until its thread is gone. -/
theorem exists_reaches_gone (released : state.run.system.control.requested = .shutdown) :
    ∃ last, state.Reaches [] last ∧ last.run.system.sampler.position = .gone := by
  -- Every turn leaves fewer turns, and a thread that is not gone has one to take.
  induction left : state.run.system.sampler.position.turnsLeft using Nat.strong_induction_on
    generalizing state with
  | _ turns ih =>
      have further : ∀ {next : State} {turn : Turn FileStore AnySink} {read?},
          state.Step next → next.run = state.run.took turn →
          state.run.system.sampler.Takes state.run.system.control state.run.system.store
            ⟨state.run.clock.now, state.run.instant, read?⟩ turn →
          ∃ last, state.Reaches [] last ∧ last.run.system.sampler.position = .gone := by
        intro next turn read? step run_eq takes
        have fewer : next.run.system.sampler.position.turnsLeft < turns := by
          rw [run_eq, ← left]
          exact takes.turnsLeft_lt released
        have releasedNext : next.run.system.control.requested = .shutdown := by
          rw [run_eq]
          exact takes.requested_eq.trans released
        obtain ⟨last, reaches, gone⟩ := ih _ fewer releasedNext rfl
        exact ⟨last, (Reaches.refl.step step).trans reaches, gone⟩
      cases taken : state.run.turn? none with
      | some run =>
          obtain ⟨turn, takes, rfl⟩ := Run.turn?_eq_some_iff.mp taken
          exact further (.turn taken) rfl takes
      | none =>
          cases Run.turn?_eq_none_iff.mp taken with
          | parked _ asked =>
              rw [released] at asked
              contradiction
          | asleep _ asked =>
              rw [Control.isSampling_eq_true_iff, released] at asked
              contradiction
          | @reading started place =>
              have takes : state.run.system.sampler.Takes state.run.system.control
                  state.run.system.store
                  ⟨state.run.clock.now, state.run.instant,
                    some (state.device.acquire state.run.system.store.files).2⟩ _ :=
                .endRead place rfl
              exact further (.read (Run.isReading_eq_true_iff.mpr ⟨started, place⟩)
                (Run.turn?_eq_some_iff.mpr ⟨_, takes, rfl⟩)) rfl takes
          | gone place => exact ⟨state, .refl, place⟩

end Magnetometer.Daemon.State
