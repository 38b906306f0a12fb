import Magnetometer.Proofs.Lifecycle.Turn
import Mathlib.Data.List.Forall2

/-!
# The trace of the sampling thread

The actions of every run are blocks, one for each session: a load, reads with
the flushes served between them, and a final write.  `Block` is the grammar of
a block; every rule names the session that the actions leave behind, so that an
event belongs to the session right after the sample it was made from.

The invariant `Stands` says how far the block at hand has come when the thread
stands at a place.  Requests do not occur in it: a request moves neither the
thread nor its session, and reaches the trace only through the look after a
read and through the end of a sleep.
-/

namespace Magnetometer.Lifecycle

open Sampler (offered)

/-! ## Blocks -/

/-- What a session does from one read that found sampling still asked for: it
takes in a sample and publishes the field, or does nothing after a failure. -/
inductive Reading (s : Session) : List Action → Session → Prop
  | sample {sample : Sample} {event : Event} (timestamp : UInt64)
      (published : (s.ingest sample).1.event? timestamp = some event) :
      Reading s [.beginRead, .endRead (.ok sample), .check true, .ingest sample, .emit event]
        (s.ingest sample).1
  | failure (error : SensorError) :
      Reading s [.beginRead, .endRead (.error error), .check true] s

/-- What a session does from its load on: reads, and after each of them the
writes for the flushes that are served. -/
inductive Sampling (s : Session) : List Action → Session → Prop
  | none : Sampling s [] s
  | read {did more : List Action} {t u : Session} (before : Sampling s did t)
      (reading : Reading t more u) : Sampling s (did ++ more) u
  | flush {did : List Action} {t : Session} (before : Sampling s did t) (someRead : did ≠ []) :
      Sampling s (did ++ [.persist (offered t)]) t

/-- What happens from one load up to the final write of its session.  The
session ends in a sleep after a read, or at a read that found sampling no
longer asked for and is discarded. -/
inductive Block (s : Session) : List Action → Session → Prop
  | asleep {loaded : Except SensorError StoredOffset} {did : List Action} {t : Session}
      (sampling : Sampling (s.restoredFrom loaded) did t) (someRead : did ≠ []) :
      Block s (.load loaded :: (did ++ [.persist (offered t)])) t
  | late {loaded : Except SensorError StoredOffset} {did : List Action} {t : Session}
      (outcome : Except SensorError Sample) (sampling : Sampling (s.restoredFrom loaded) did t) :
      Block s
        (.load loaded ::
          (did ++ [.beginRead, .endRead outcome, .check false, .persist (offered t)])) t

/-- Blocks one after another. -/
inductive Blocks (s : Session) : List Action → Session → Prop
  | none : Blocks s [] s
  | next {did more : List Action} {t u : Session} (before : Blocks s did t)
      (block : Block t more u) : Blocks s (did ++ more) u

/-- A block without its final write, and perhaps in the middle of a read. -/
inductive Unfinished (s : Session) : List Action → Session → Prop
  | none : Unfinished s [] s
  | between {loaded : Except SensorError StoredOffset} {did : List Action} {t : Session}
      (sampling : Sampling (s.restoredFrom loaded) did t) : Unfinished s (.load loaded :: did) t
  | reading {loaded : Except SensorError StoredOffset} {did begun : List Action} {t : Session}
      {outcome : Except SensorError Sample} {isSampling : Bool}
      (sampling : Sampling (s.restoredFrom loaded) did t)
      (start : begun <+: [.beginRead, .endRead outcome, .check isSampling]) :
      Unfinished s (.load loaded :: (did ++ begun)) t

theorem Reading.ne_nil {s t : Session} {did : List Action} (reading : Reading s did t) :
    did ≠ [] := by
  cases reading <;> exact List.cons_ne_nil _ _

/-- A read can be completed from any part of it: to a failed one that found
sampling asked for, or to a late one. -/
theorem Unfinished.exists_block {s t : Session} {did : List Action}
    (unfinished : Unfinished s did t) : ∃ rest u, Block s (did ++ rest) u := by
  cases unfinished with
  | none =>
      have block : Block s [.load (.ok .empty), .beginRead, .endRead (.error .notReady),
          .check false, .persist (offered (s.restoredFrom (.ok .empty)))]
          (s.restoredFrom (.ok .empty)) :=
        .late (.error .notReady) .none
      exact ⟨_, _, block⟩
  | between sampling =>
      exact ⟨_, _, by simpa using Block.late (.error .notReady) sampling⟩
  | @reading loaded did begun t outcome isSampling sampling start =>
      obtain ⟨rest, whole⟩ := start
      cases isSampling with
      | false =>
          refine ⟨rest ++ [.persist (offered t)], t, ?_⟩
          have block := Block.late outcome sampling
          rw [show [.beginRead, .endRead outcome, .check false, .persist (offered t)] =
            (begun ++ rest) ++ [.persist (offered t)] by rw [whole]; rfl] at block
          simpa using block
      | true =>
          cases outcome with
          | error error =>
              refine ⟨rest ++ [.persist (offered t)], t, ?_⟩
              have reading : Reading t (begun ++ rest) t := whole ▸ .failure error
              have block := Block.asleep (sampling.read reading)
                (List.append_ne_nil_of_right_ne_nil _ reading.ne_nil)
              simpa using block
          | ok sample =>
              obtain ⟨event, published⟩ := t.exists_event?_ingest sample 0
              refine ⟨rest ++ [.ingest sample, .emit event,
                .persist (offered (t.ingest sample).1)], (t.ingest sample).1, ?_⟩
              have reading : Reading t ((begun ++ rest) ++ [.ingest sample, .emit event])
                  (t.ingest sample).1 := by
                rw [whole]
                exact .sample 0 published
              have block := Block.asleep (sampling.read reading)
                (List.append_ne_nil_of_right_ne_nil _ reading.ne_nil)
              simpa using block

/-! ## Replaying a trace -/

/-- The session after an action. -/
def follow (s : Session) : Action → Session
  | .load loaded => s.restoredFrom loaded
  | .ingest sample => (s.ingest sample).1
  | _ => s

/-- The sessions right after each sample that a trace takes in. -/
def ingested (s : Session) : List Action → List Session
  | [] => []
  | .ingest sample :: rest => (s.ingest sample).1 :: ingested (s.ingest sample).1 rest
  | action :: rest => ingested (follow s action) rest

/-- The events of a trace. -/
def published : List Action → List Event
  | [] => []
  | .emit event :: rest => event :: published rest
  | _ :: rest => published rest

theorem ingested_append (s : Session) (did more : List Action) :
    ingested s (did ++ more) = ingested s did ++ ingested (did.foldl follow s) more := by
  induction did generalizing s with
  | nil => rfl
  | cons action rest ih =>
      cases action with
      | ingest sample => simp only [List.cons_append, ingested, ih, List.foldl_cons, follow]
      | _ => simp only [List.cons_append, ingested, ih, List.foldl_cons]

theorem published_append (did more : List Action) :
    published (did ++ more) = published did ++ published more := by
  induction did with
  | nil => rfl
  | cons action rest ih =>
      cases action with
      | emit event => simp only [List.cons_append, published, ih]
      | _ => simp only [List.cons_append, published, ih]

/-- A trace leads from one session to another, and its events are those of the
sessions right after its samples, one for each and in their order. -/
structure Replays (s : Session) (did : List Action) (t : Session) : Prop where
  session_eq : did.foldl follow s = t
  events : List.Forall₂ (fun session event => ∃ timestamp, session.event? timestamp = some event)
    (ingested s did) (published did)

namespace Replays

theorem append {s t u : Session} {did more : List Action} (first : Replays s did t)
    (second : Replays t more u) : Replays s (did ++ more) u where
  session_eq := by rw [List.foldl_append, first.session_eq, second.session_eq]
  events := by
    rw [ingested_append, published_append, first.session_eq]
    exact List.rel_append first.events second.events

theorem load (s : Session) (loaded : Except SensorError StoredOffset) :
    Replays s [.load loaded] (s.restoredFrom loaded) := ⟨rfl, .nil⟩

theorem persist (s : Session) (offset? : Option HardIronOffset) :
    Replays s [.persist offset?] s := ⟨rfl, .nil⟩

/-- A read by itself leaves the session as it is, whatever comes of it. -/
theorem read {s : Session} {begun : List Action} {outcome : Except SensorError Sample}
    {isSampling : Bool} (start : begun <+: [.beginRead, .endRead outcome, .check isSampling]) :
    Replays s begun s := by
  rcases List.prefix_cons_iff.mp start with rfl | ⟨_, rfl, later⟩
  · exact ⟨rfl, .nil⟩
  · rcases List.prefix_cons_iff.mp later with rfl | ⟨_, rfl, last⟩
    · exact ⟨rfl, .nil⟩
    · rcases List.prefix_cons_iff.mp last with rfl | ⟨_, rfl, end_⟩
      · exact ⟨rfl, .nil⟩
      · rw [List.prefix_nil.mp end_]
        exact ⟨rfl, .nil⟩

end Replays

theorem Reading.replays {s t : Session} {did : List Action} (reading : Reading s did t) :
    Replays s did t := by
  cases reading with
  | sample timestamp published => exact ⟨rfl, .cons ⟨timestamp, published⟩ .nil⟩
  | failure error => exact .read List.prefix_rfl

theorem Sampling.replays {s t : Session} {did : List Action} (sampling : Sampling s did t) :
    Replays s did t := by
  induction sampling with
  | none => exact ⟨rfl, .nil⟩
  | read _ reading ih => exact ih.append reading.replays
  | flush _ _ ih => exact ih.append (.persist _ _)

theorem Block.replays {s t : Session} {did : List Action} (block : Block s did t) :
    Replays s did t := by
  cases block with
  | asleep sampling someRead =>
      exact (Replays.load s _).append (sampling.replays.append (.persist t _))
  | late outcome sampling =>
      have discarded : Replays t [.beginRead, .endRead outcome, .check false] t :=
        .read List.prefix_rfl
      exact (Replays.load s _).append (sampling.replays.append (discarded.append (.persist t _)))

theorem Blocks.replays {s t : Session} {did : List Action} (blocks : Blocks s did t) :
    Replays s did t := by
  induction blocks with
  | none => exact ⟨rfl, .nil⟩
  | next _ block ih => exact ih.append block.replays

theorem Unfinished.replays {s t : Session} {did : List Action} (unfinished : Unfinished s did t) :
    Replays s did t := by
  cases unfinished with
  | none => exact ⟨rfl, .nil⟩
  | between sampling => exact (Replays.load s _).append sampling.replays
  | reading sampling start =>
      exact (Replays.load s _).append (sampling.replays.append (.read start))

/-! ## Runs -/

/-- A block in which a read has begun and nothing came of it yet. -/
def Within (s : Session) (begun part : List Action) (t : Session) : Prop :=
  ∃ loaded did, Sampling (s.restoredFrom loaded) did t ∧ part = .load loaded :: (did ++ begun)

/-- A block after one of its reads. -/
def Between (s : Session) (part : List Action) (t : Session) : Prop :=
  ∃ loaded did, Sampling (s.restoredFrom loaded) did t ∧ did ≠ [] ∧ part = .load loaded :: did

/-- How far the block at hand has come when the thread stands at a place: what
was done in it, and the session that this leaves behind. -/
def Stands (s : Session) : Position → List Action → Session → Prop
  | .parked, part, t | .gone, part, t | .loading, part, t => part = [] ∧ t = s
  | .starting, part, t => Within s [] part t
  | .reading _, part, t => Within s [.beginRead] part t
  | .checking _ outcome, part, t => Within s [.beginRead, .endRead outcome] part t
  | .handling _ outcome, part, t => Within s [.beginRead, .endRead outcome, .check true] part t
  | .resting _, part, t | .asleep _, part, t | .flushing _ _, part, t | .marking _ _, part, t =>
      Between s part t
  | .closing, part, t =>
      Between s part t ∨
        ∃ outcome, Within s [.beginRead, .endRead outcome, .check false] part t
  | .settling, part, t => Block s part t

namespace Within

variable {s t : Session} {begun part : List Action}

theorem snoc (within : Within s begun part t) (action : Action) :
    Within s (begun ++ [action]) (part ++ [action]) t := by
  obtain ⟨loaded, did, sampling, rfl⟩ := within
  exact ⟨loaded, did, sampling, by simp⟩

/-- What came of the read completes it. -/
theorem reading {more : List Action} {u : Session} (within : Within s begun part t)
    (reading : Reading t (begun ++ more) u) : Between s (part ++ more) u := by
  obtain ⟨loaded, did, sampling, rfl⟩ := within
  refine ⟨loaded, did ++ (begun ++ more), sampling.read reading, ?_, by simp⟩
  exact List.append_ne_nil_of_right_ne_nil did reading.ne_nil

theorem unfinished (within : Within s begun part t) {outcome : Except SensorError Sample}
    {isSampling : Bool} (start : begun <+: [.beginRead, .endRead outcome, .check isSampling]) :
    Unfinished s part t := by
  obtain ⟨loaded, did, sampling, rfl⟩ := within
  exact .reading sampling start

end Within

namespace Between

variable {s t : Session} {part : List Action}

theorem within (between : Between s part t) : Within s [] part t := by
  obtain ⟨loaded, did, sampling, _, rfl⟩ := between
  exact ⟨loaded, did, sampling, by simp⟩

theorem flush (between : Between s part t) : Between s (part ++ [.persist (offered t)]) t := by
  obtain ⟨loaded, did, sampling, someRead, rfl⟩ := between
  exact ⟨loaded, _, sampling.flush someRead,
    List.append_ne_nil_of_left_ne_nil someRead _, rfl⟩

theorem unfinished (between : Between s part t) : Unfinished s part t := by
  obtain ⟨loaded, did, sampling, _, rfl⟩ := between
  exact .between sampling

end Between

/-- The final write completes a block. -/
theorem Stands.close {s t : Session} {part : List Action} (stands : Stands s .closing part t) :
    Block s (part ++ [.persist (offered t)]) t := by
  rcases stands with ⟨loaded, did, sampling, someRead, rfl⟩ | ⟨outcome, loaded, did, sampling, rfl⟩
  · exact .asleep sampling someRead
  · simpa using Block.late outcome sampling

/-- A block whose final write is still to come is unfinished. -/
theorem Stands.unfinished {s t : Session} {position : Position} {part : List Action}
    (stands : Stands s position part t) (unwritten : position ≠ .settling) :
    Unfinished s part t := by
  cases position with
  | parked | gone | loading =>
      obtain ⟨rfl, rfl⟩ := stands
      exact .none
  | starting =>
      exact Within.unfinished stands ⟨[.beginRead, .endRead (.ok .zero), .check true], rfl⟩
  | reading started =>
      exact Within.unfinished stands ⟨[.endRead (.ok .zero), .check true], rfl⟩
  | checking started outcome => exact Within.unfinished stands ⟨[.check true], rfl⟩
  | handling started outcome => exact Within.unfinished stands List.prefix_rfl
  | resting _ | asleep _ | flushing _ _ | marking _ _ => exact Between.unfinished stands
  | closing =>
      rcases stands with between | ⟨outcome, within⟩
      · exact between.unfinished
      · exact within.unfinished List.prefix_rfl
  | settling => exact absurd rfl unwritten

variable {σ κ : Type} [CalibrationStore σ] [EventSink κ]

/-- A turn brings the block at hand one action further, or completes it. -/
theorem Stands.turn {s : Session} {part : List Action} {sampler : Sampler κ} {control : Control}
    {store : σ} {surroundings : Surroundings} {turn : Turn σ κ}
    (stands : Stands s sampler.position part sampler.session)
    (takes : sampler.Takes control store surroundings turn) :
    Stands s turn.sampler.position (part ++ turn.actions) turn.sampler.session ∨
      turn.sampler.position = .parked ∧
        Block s (part ++ turn.actions) turn.sampler.session := by
  cases takes with
  | begin place asked | leave place asked | park place asked unsettled =>
      rw [place] at stands
      obtain ⟨rfl, same⟩ := stands
      exact .inl ⟨rfl, same⟩
  | load place =>
      rw [place] at stands
      obtain ⟨rfl, same⟩ := stands
      refine .inl ⟨(sampler.session.restore store).loaded, [], ?_, rfl⟩
      rw [Session.restore_session, same]
      exact .none
  | beginRead place | endRead place given | proceed place asked =>
      rw [place] at stands
      exact .inl (Within.snoc stands _)
  | discard place stopped =>
      rw [place] at stands
      exact .inl (.inr ⟨_, Within.snoc stands _⟩)
  | publish place published =>
      rw [place] at stands
      exact .inl (Within.reading stands (.sample _ published))
  | fail place =>
      rw [place] at stands
      exact .inl (Within.reading stands (.failure _))
  | rest place | serve place asked pending | mark place =>
      rw [place] at stands
      rw [Sampler.actions_go, List.append_nil]
      exact .inl stands
  | stop place stopped =>
      rw [place] at stands
      rw [Sampler.actions_go, List.append_nil]
      exact .inl (.inl stands)
  | awake place asked settled passed =>
      rw [place] at stands
      rw [Sampler.actions_go, List.append_nil]
      exact .inl (Between.within stands)
  | flush place =>
      rw [place] at stands
      exact .inl (Between.flush stands)
  | close place =>
      rw [place] at stands
      exact .inl stands.close
  | settle place =>
      rw [place] at stands
      rw [List.append_nil]
      exact .inr ⟨rfl, stands⟩

/-- Blocks that are finished, and a block in which the thread stands. -/
def Traced (s : Session) (done : List Action) (sampler : Sampler κ) : Prop :=
  ∃ finished part middle, done = finished ++ part ∧ Blocks s finished middle ∧
    Stands middle sampler.position part sampler.session

theorem Traced.turn {s : Session} {done : List Action} {sampler : Sampler κ}
    {control : Control} {store : σ} {surroundings : Surroundings} {turn : Turn σ κ}
    (traced : Traced s done sampler) (takes : sampler.Takes control store surroundings turn) :
    Traced s (done ++ turn.actions) turn.sampler := by
  obtain ⟨finished, part, middle, rfl, blocks, stands⟩ := traced
  rcases stands.turn takes with stands | ⟨parked, block⟩
  · exact ⟨finished, part ++ turn.actions, middle, List.append_assoc .., blocks, stands⟩
  · refine ⟨finished ++ (part ++ turn.actions), [], _, ?_, blocks.next block, ?_⟩
    · rw [List.append_nil, List.append_assoc]
    · rw [parked]
      exact ⟨rfl, rfl⟩

/-- Every run from a new driver is traced; a request or a foreign write changes
neither the thread nor what it did. -/
theorem traced_of_run? {sensitivity : Sensitivity} {store : σ} {sink : κ} {moves : List Move}
    {last : Moved σ κ} (run : (System.new sensitivity store sink).run? moves = some last) :
    Traced (.new sensitivity) last.actions last.system.sampler := by
  have start : Traced (.new sensitivity) [] (System.new sensitivity store sink).sampler :=
    ⟨[], [], _, rfl, .none, ⟨rfl, rfl⟩⟩
  refine System.run?_invariant (fun done system => Traced (.new sensitivity) done system.sampler)
    ?_ run start
  intro done system move moved traced happens
  cases happens with
  | request held => simpa using traced
  | turn takes => exact traced.turn takes
  | save => simpa using traced

/-- A trace of blocks, all but the last one complete, whose actions lead from
one session to another. -/
def Disciplined (s : Session) (done : List Action) (t : Session) : Prop :=
  Replays s done t ∧
    ∃ finished part middle, done = finished ++ part ∧ Blocks s finished middle ∧
      Unfinished middle part t ∧ ∃ rest final, Block middle (part ++ rest) final

omit [EventSink κ] in
theorem Traced.disciplined {s : Session} {done : List Action} {sampler : Sampler κ}
    (traced : Traced s done sampler) : Disciplined s done sampler.session := by
  obtain ⟨finished, part, middle, rfl, blocks, stands⟩ := traced
  by_cases written : sampler.position = .settling
  · rw [written] at stands
    have whole : Blocks s (finished ++ part) sampler.session := blocks.next stands
    exact ⟨whole.replays, finished ++ part, [], _, (List.append_nil _).symm, whole, .none,
      Unfinished.none.exists_block⟩
  · have unfinished := stands.unfinished written
    exact ⟨blocks.replays.append unfinished.replays, finished, part, middle, rfl, blocks,
      unfinished, unfinished.exists_block⟩

/-- For every order of requests and turns, and whatever the reads come to, the
sampling thread keeps the discipline: load, then samples taken in and published
one by one with flushes between them, then one final write. -/
theorem disciplined_of_run? (sensitivity : Sensitivity) (store : σ) (sink : κ)
    {moves : List Move} {last : Moved σ κ}
    (run : (System.new sensitivity store sink).run? moves = some last) :
    Disciplined (.new sensitivity) last.actions last.system.sampler.session :=
  (traced_of_run? run).disciplined

/-- A run with a flush while the thread is asleep after its first sample. -/
theorem disciplined_of_run?_flush :
    ∃ last, (System.new .neutral (MemoryStore.ofStored .empty) ([] : List Event)).run?
        [.request .activate, .turn ⟨0, 0, none⟩, .turn ⟨0, 0, none⟩, .turn ⟨0, 0, none⟩,
          .turn ⟨5, 0, some (.ok ⟨1, 2, 3⟩)⟩, .turn ⟨5, 0, none⟩, .turn ⟨7, 0, none⟩,
          .turn ⟨7, 0, none⟩, .request .flush, .turn ⟨7, 0, none⟩, .turn ⟨7, 0, none⟩,
          .turn ⟨7, 0, none⟩, .request .deactivate, .turn ⟨8, 0, none⟩, .turn ⟨8, 0, none⟩] =
        some last ∧
      Disciplined (.new .neutral) last.actions last.system.sampler.session :=
  ⟨_, (Option.some_get rfl).symm, disciplined_of_run? _ _ _ (Option.some_get rfl).symm⟩

end Magnetometer.Lifecycle
