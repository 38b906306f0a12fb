import Mathlib.Data.List.Basic
import Magnetometer.Proofs.Json.Writer
import Magnetometer.Proofs.Text.Line
import Magnetometer.Proofs.Text.Utf8
import Magnetometer.Sink.JsonLines

/-!
# What a sink of JSON lines leaves behind

A writer may take any part of what it is offered, fail, and work again later.
Of every event it has then taken a part from the front, and all of it with its
line feed if the event was written.  An event that was given up after a part of
it was taken leaves an unfinished line, and the next event goes on with that
line: an event that was written has a line of its own if and only if no such
part stands before it.

A writer that takes no more than a part of the line per offer stands for a
serializer that hands the line over part by part.
-/

namespace Magnetometer

/-! ## A record of what was taken -/

/-- A writer with the bytes that it has taken. -/
structure Recorded (ω : Type) where
  writer : ω
  /-- Bytes taken, oldest first. -/
  taken : Bytes
deriving DecidableEq, Repr

namespace Recorded

variable {ω : Type} [ByteWriter ω]

/-- A writer that has taken nothing yet. -/
def new (writer : ω) : Recorded ω := ⟨writer, []⟩

/-- What a writer answers, with the bytes that it takes by the answer. -/
def answer (taken bytes : Bytes) : ω × Except Fault Nat → Recorded ω × Except Fault Nat
  | (writer, .ok count) => (⟨writer, taken ++ bytes.take count⟩, .ok count)
  | (writer, .error fault) => (⟨writer, taken⟩, .error fault)

instance : ByteWriter (Recorded ω) where
  write r bytes := answer r.taken bytes (ByteWriter.write r.writer bytes)
  flush r := (ByteWriter.flush r.writer).map (⟨·, r.taken⟩) id

theorem write_eq (r : Recorded ω) (bytes : Bytes) :
    ByteWriter.write r bytes = answer r.taken bytes (ByteWriter.write r.writer bytes) :=
  rfl

/-- Of some bytes a part from the front is taken, and all of them if the
writing succeeds. -/
theorem writeAllWithin_taken {offers : Nat} {bytes : Bytes} (enough : bytes.length ≤ offers)
    (r : Recorded ω) :
    ∃ part, part <+: bytes ∧
      (ByteWriter.writeAllWithin offers r bytes).1.taken = r.taken ++ part ∧
      ((ByteWriter.writeAllWithin offers r bytes).2 = .ok () → part = bytes) := by
  induction offers generalizing r bytes with
  | zero =>
      cases List.eq_nil_of_length_eq_zero (Nat.le_zero.mp enough)
      exact ⟨[], List.nil_prefix, (List.append_nil _).symm, fun _ => rfl⟩
  | succ offers ih =>
      rw [ByteWriter.writeAllWithin]
      split
      · rename_i done
        subst done
        exact ⟨[], List.nil_prefix, (List.append_nil _).symm, fun _ => rfl⟩
      · rw [write_eq]
        rcases ByteWriter.write r.writer bytes with ⟨writer, fault | count⟩
        · exact ⟨[], List.nil_prefix, (List.append_nil _).symm, nofun⟩
        · cases count with
          | zero => exact ⟨[], List.nil_prefix, rfl, nofun⟩
          | succ count =>
              have shorter : (bytes.drop (count + 1)).length ≤ offers := by
                rw [List.length_drop]
                omega
              obtain ⟨part, ⟨rest, joined⟩, taken, whole⟩ :=
                ih shorter ⟨writer, r.taken ++ bytes.take (count + 1)⟩
              refine ⟨bytes.take (count + 1) ++ part, ⟨rest, ?_⟩, ?_, fun done => ?_⟩
              · rw [List.append_assoc, joined, List.take_append_drop]
              · exact taken.trans (List.append_assoc _ _ _)
              · rw [whole done, List.take_append_drop]

/-- Of several byte sequences a part from the front is taken, and all of them if
the writing succeeds. -/
theorem writeParts_taken (parts : List Bytes) (r : Recorded ω) :
    ∃ part, part <+: parts.flatten ∧
      (ByteWriter.writeParts r parts).1.taken = r.taken ++ part ∧
      ((ByteWriter.writeParts r parts).2 = .ok () → part = parts.flatten) := by
  induction parts generalizing r with
  | nil => exact ⟨[], List.nil_prefix, (List.append_nil _).symm, fun _ => rfl⟩
  | cons bytes parts ih =>
      obtain ⟨part, front, taken, whole⟩ := writeAllWithin_taken (Nat.le_refl bytes.length) r
      rw [List.flatten_cons, ByteWriter.writeParts, ByteWriter.writeAll]
      rcases answered : ByteWriter.writeAllWithin bytes.length r bytes with ⟨next, fault | done⟩
      · rw [answered] at taken
        exact ⟨part, front.trans (List.prefix_append _ _), taken, nofun⟩
      · rw [answered] at taken whole
        obtain ⟨rest, frontRest, takenRest, wholeRest⟩ := ih next
        cases whole rfl
        refine ⟨bytes ++ rest, ?_, ?_, fun done => ?_⟩
        · exact (List.prefix_append_right_inj bytes).mpr frontRest
        · rw [← List.append_assoc, ← taken]
          exact takenRest
        · rw [wholeRest done]

/-- Recording changes nothing of what a writer does. -/
theorem writeAllWithin_writer (offers : Nat) (r : Recorded ω) (bytes : Bytes) :
    (ByteWriter.writeAllWithin offers r bytes).map Recorded.writer id =
      ByteWriter.writeAllWithin offers r.writer bytes := by
  induction offers generalizing r bytes with
  | zero => rfl
  | succ offers ih =>
      rw [ByteWriter.writeAllWithin, ByteWriter.writeAllWithin]
      split
      · rfl
      · rw [write_eq]
        rcases ByteWriter.write r.writer bytes with ⟨writer, fault | count⟩
        · rfl
        · cases count with
          | zero => rfl
          | succ count => exact ih _ _

theorem writeParts_writer (parts : List Bytes) (r : Recorded ω) :
    (ByteWriter.writeParts r parts).map Recorded.writer id =
      ByteWriter.writeParts r.writer parts := by
  induction parts generalizing r with
  | nil => rfl
  | cons bytes parts ih =>
      rw [ByteWriter.writeParts, ByteWriter.writeParts, ByteWriter.writeAll, ByteWriter.writeAll,
        ← writeAllWithin_writer]
      rcases ByteWriter.writeAllWithin bytes.length r bytes with ⟨next, fault | done⟩
      · rfl
      · exact ih next

end Recorded

/-! ## One event -/

/-- What became of an event that a sink was offered. -/
structure Emission where
  event : Event
  /-- Whether the event was written: its line, the line feed and the flush. -/
  written : Bool
  /-- The bytes that the writer took meanwhile. -/
  part : Bytes
deriving DecidableEq, Repr

namespace Emission

/-- The event was given up after some of its line was taken, and before the line
feed was. -/
def CutOff (emission : Emission) : Prop :=
  emission.written = false ∧ emission.part ≠ [] ∧ 10 ∉ emission.part

/-- A part of the line from its front was taken, and all of it with its line
feed if the event was written. -/
structure Sound (emission : Emission) : Prop where
  front : emission.part <+: JsonLines.line emission.event ++ [10]
  whole : emission.written = true → emission.part = JsonLines.line emission.event ++ [10]

end Emission

namespace JsonLines

theorem lineFeed_not_mem_line (event : Event) : 10 ∉ line event :=
  Text.Utf8.lineFeed_not_mem_encode event.lineFeed_not_mem_toJson

end JsonLines

/-- Of an event nothing was taken, or its line was cut off, or it was taken with
its line feed. -/
theorem Emission.Sound.part_cases {emission : Emission} (sound : emission.Sound) :
    emission.part = [] ∨ emission.CutOff ∨
      emission.part = JsonLines.line emission.event ++ [10] := by
  rcases List.prefix_concat_iff.mp sound.front with all | front
  · exact .inr (.inr all)
  · by_cases none : emission.part = []
    · exact .inl none
    · have unended : 10 ∉ emission.part := fun mem =>
        JsonLines.lineFeed_not_mem_line emission.event (front.subset mem)
      refine .inr (.inl ⟨?_, none, unended⟩)
      rw [← Bool.not_eq_true]
      intro written
      apply unended
      rw [sound.whole written]
      exact List.mem_append_right _ (List.mem_singleton_self 10)

/-! ## A writer that fails once -/

/-- A writer that answers its first offers as it is told and then takes
everything. -/
structure Scripted where
  /-- How many bytes it takes of each offer at most, or how it fails. -/
  answers : List (Except Fault Nat)

namespace Scripted

instance : ByteWriter Scripted where
  write w bytes :=
    match w.answers with
    | [] => (w, .ok bytes.length)
    | answer :: rest => (⟨rest⟩, answer.map (min · bytes.length))
  flush w := (w, .ok ())

/-- A writer that takes some bytes of its first offer, fails, and recovers. -/
def recovering (taken : Nat) : Scripted := ⟨[.ok taken, .error (.other "no space left")]⟩

end Scripted

/-! ## A run of events -/

namespace JsonLines

variable {ω : Type} [ByteWriter ω]

/-- What becomes of the next event. -/
def emission (sink : JsonLines (Recorded ω)) (event : Event) : Emission where
  event := event
  written := !(EventSink.emit sink event).1.failed
  part := (EventSink.emit sink event).1.writer.taken.drop sink.writer.taken.length

/-- What becomes of a sequence of events. -/
def emissions (sink : JsonLines (Recorded ω)) : List Event → List Emission
  | [] => []
  | event :: rest => sink.emission event :: emissions (EventSink.emit sink event).1 rest

/-- All bytes that a writer takes of a sequence of events. -/
def output (writer : ω) (events : List Event) : Bytes :=
  (events.foldl (fun sink event => (EventSink.emit sink event).1)
    (new (Recorded.new writer))).writer.taken

/-- The line at which an event stands: the number of line feeds before it. -/
def lineNumber (earlier : List Emission) : Nat := (earlier.flatMap Emission.part).count 10

/-- The last event of which something was taken was cut off. -/
def LeavesOpen (earlier : List Emission) : Prop :=
  ∃ older cut silent, earlier = older ++ cut :: silent ∧ cut.CutOff ∧
    ∀ emission ∈ silent, emission.part = []

theorem emit_of_error {sink : JsonLines ω} {event : Event} {writer : ω}
    {fault : Fault} (failed : writeEvent sink.writer event = (writer, .error fault)) :
    (EventSink.emit sink event).1 = ⟨writer, true⟩ := by
  simp only [EventSink.emit, failed]

theorem emit_of_ok {sink : JsonLines ω} {event : Event} {writer : ω}
    (done : writeEvent sink.writer event = (writer, .ok ())) :
    (EventSink.emit sink event).1 = ⟨writer, false⟩ := by
  simp only [EventSink.emit, done]

/-- A sink with the writer that is recorded in it. -/
def unrecorded (sink : JsonLines (Recorded ω)) : JsonLines ω := ⟨sink.writer.writer, sink.failed⟩

/-- Recording changes nothing of what a sink does. -/
theorem emit_unrecorded (sink : JsonLines (Recorded ω)) (event : Event) :
    EventSink.emit sink.unrecorded event = (EventSink.emit sink event).map unrecorded id := by
  have offered : writeEvent sink.unrecorded.writer event =
      (writeEvent sink.writer event).map Recorded.writer id := by
    unfold writeEvent
    rw [unrecorded, ← Recorded.writeParts_writer]
    rcases ByteWriter.writeParts sink.writer [line event, [10]] with ⟨next, fault | done⟩
    · rfl
    · rfl
  simp only [EventSink.emit, offered]
  rcases writeEvent sink.writer event with ⟨writer, fault | done⟩
  · rfl
  · rfl

/-- Of an event a part from the front is taken, and all of it if it is written. -/
theorem writeEvent_taken (writer : Recorded ω) (event : Event) :
    ∃ part, part <+: line event ++ [10] ∧
      (writeEvent writer event).1.taken = writer.taken ++ part ∧
      ((writeEvent writer event).2 = .ok () → part = line event ++ [10]) := by
  have offered := Recorded.writeParts_taken [line event, [10]] writer
  rw [List.flatten_cons, List.flatten_singleton] at offered
  obtain ⟨part, front, taken, whole⟩ := offered
  refine ⟨part, front, ?_⟩
  unfold writeEvent
  rcases written : ByteWriter.writeParts writer [line event, [10]] with ⟨next, fault | done⟩
  · rw [written] at taken
    exact ⟨taken, nofun⟩
  · rw [written] at taken whole
    exact ⟨taken, fun _ => whole rfl⟩

/-- What is taken of an event joins what was taken before it. -/
theorem taken_emit (sink : JsonLines (Recorded ω)) (event : Event) :
    (sink.emission event).Sound ∧
      (EventSink.emit sink event).1.writer.taken =
        sink.writer.taken ++ (sink.emission event).part := by
  obtain ⟨part, front, taken, whole⟩ := writeEvent_taken sink.writer event
  suffices joined : (EventSink.emit sink event).1.writer.taken = sink.writer.taken ++ part ∧
      ((EventSink.emit sink event).1.failed = false → part = line event ++ [10]) by
    have same : (sink.emission event).part = part := by
      rw [emission, joined.1, List.drop_left]
    refine ⟨⟨same ▸ front, fun written => ?_⟩, same ▸ joined.1⟩
    rw [same]
    exact joined.2 ((Bool.not_eq_eq_eq_not).mp written)
  rcases result : writeEvent sink.writer event with ⟨writer, fault | done⟩
  · rw [result] at taken
    rw [emit_of_error result]
    exact ⟨taken, nofun⟩
  · rw [result] at taken whole
    rw [emit_of_ok result]
    exact ⟨taken, fun _ => whole rfl⟩

/-- What is taken of every event joins what was taken before it. -/
theorem taken_emissions (sink : JsonLines (Recorded ω)) (events : List Event) :
    (∀ emission ∈ sink.emissions events, emission.Sound) ∧
      (events.foldl (fun sink event => (EventSink.emit sink event).1) sink).writer.taken =
        sink.writer.taken ++ (sink.emissions events).flatMap Emission.part := by
  induction events generalizing sink with
  | nil => exact ⟨nofun, (List.append_nil _).symm⟩
  | cons event rest ih =>
      obtain ⟨sound, taken⟩ := taken_emit sink event
      obtain ⟨soundRest, takenRest⟩ := ih (EventSink.emit sink event).1
      refine ⟨List.forall_mem_cons.mpr ⟨sound, soundRest⟩, ?_⟩
      rw [List.foldl_cons, takenRest, taken, emissions, List.flatMap_cons, List.append_assoc]

@[simp]
theorem event_emissions (sink : JsonLines (Recorded ω)) (events : List Event) :
    (sink.emissions events).map Emission.event = events := by
  induction events generalizing sink with
  | nil => rfl
  | cons event rest ih =>
      rw [emissions, List.map_cons, ih]
      rfl

theorem output_eq (writer : ω) (events : List Event) :
    output writer events = ((new (.new writer)).emissions events).flatMap Emission.part :=
  (taken_emissions (new (.new writer)) events).2

/-- After one more event a line is open if the event was cut off, or if nothing
was taken of it and a line was open before. -/
theorem leavesOpen_concat (earlier : List Emission) (last : Emission) :
    LeavesOpen (earlier ++ [last]) ↔ last.CutOff ∨ last.part = [] ∧ LeavesOpen earlier := by
  constructor
  · rintro ⟨older, cut, silent, eq, cutOff, still⟩
    rcases List.eq_nil_or_concat' silent with rfl | ⟨silent, quiet, rfl⟩
    · obtain ⟨-, same⟩ := List.append_inj' eq rfl
      cases same
      exact .inl cutOff
    · rw [← List.cons_append, ← List.append_assoc] at eq
      obtain ⟨rfl, same⟩ := List.append_inj' eq rfl
      cases same
      rw [List.forall_mem_append, List.forall_mem_singleton] at still
      exact .inr ⟨still.2, older, cut, silent, rfl, cutOff, still.1⟩
  · rintro (cutOff | ⟨none, older, cut, silent, rfl, cutOff, still⟩)
    · exact ⟨earlier, last, [], rfl, cutOff, nofun⟩
    · refine ⟨older, cut, silent ++ [last], by simp, cutOff, ?_⟩
      rw [List.forall_mem_append, List.forall_mem_singleton]
      exact ⟨still, none⟩

theorem not_leavesOpen_nil : ¬LeavesOpen [] := by
  rintro ⟨older, cut, silent, eq, -⟩
  exact List.append_ne_nil_of_right_ne_nil older (List.cons_ne_nil cut silent) eq.symm

/-- What was taken ends inside a line if and only if the last event of which
something was taken was cut off. -/
theorem endsInside_iff {earlier : List Emission} (sound : ∀ emission ∈ earlier, emission.Sound) :
    Text.EndsInside 10 (earlier.flatMap Emission.part) ↔ LeavesOpen earlier := by
  induction earlier using List.reverseRecOn with
  | nil => exact iff_of_false Text.not_endsInside_nil not_leavesOpen_nil
  | append_singleton earlier last ih =>
      rw [List.forall_mem_append, List.forall_mem_singleton] at sound
      rw [List.flatMap_append, List.flatMap_singleton, leavesOpen_concat]
      rcases sound.2.part_cases with none | cut | all
      · have uncut : ¬last.CutOff := fun cut => cut.2.1 none
        simp only [none, List.append_nil, ih sound.1, uncut, true_and, false_or]
      · exact iff_of_true (Text.endsInside_append cut.2.1 cut.2.2 _) (.inl cut)
      · have ended : 10 ∈ last.part := by simp [all]
        refine iff_of_false ?_ ?_
        · rw [all, ← List.append_assoc, Text.endsInside_concat]
          exact not_not_intro rfl
        · rintro (cut | ⟨none, -⟩)
          · exact cut.2.2 ended
          · simp [none] at ended

/-- The line number goes up with every event that was written. -/
theorem lineNumber_lt {emission : Emission} (ended : 10 ∈ emission.part)
    (earlier more : List Emission) :
    lineNumber earlier < lineNumber (earlier ++ emission :: more) := by
  have one : 0 < emission.part.count 10 := List.count_pos_iff.mpr ended
  unfold lineNumber
  rw [List.flatMap_append, List.flatMap_cons, List.count_append, List.count_append]
  omega

/-- Where no event is cut off, what was taken is whole lines. -/
theorem flatMap_part {emissions : List Emission} (sound : ∀ emission ∈ emissions, emission.Sound)
    (unbroken : ∀ emission ∈ emissions, ¬emission.CutOff) :
    emissions.flatMap Emission.part =
      ((emissions.filter (·.part ≠ [])).map (line ·.event)).flatMap (· ++ [10]) := by
  induction emissions with
  | nil => rfl
  | cons emission rest ih =>
      rw [List.forall_mem_cons] at sound unbroken
      rw [List.flatMap_cons, ih sound.2 unbroken.2]
      rcases sound.1.part_cases with none | cut | all
      · rw [List.filter_cons_of_neg (by simpa using none), none, List.nil_append]
      · exact absurd cut unbroken.1
      · rw [List.filter_cons_of_pos (by simp [all]), List.map_cons, List.flatMap_cons, all]

/-- If no event leaves its line unfinished, the lines of the output are those of
the events that were taken, in their order. -/
theorem splitAt_output {writer : ω} {events : List Event}
    (unbroken : ∀ emission ∈ (new (.new writer)).emissions events, ¬emission.CutOff) :
    Text.splitAt 10 (output writer events) =
      (((new (.new writer)).emissions events).filter (·.part ≠ [])).map (line ·.event) ++ [[]] := by
  have sound := (taken_emissions (new (.new writer)) events).1
  rw [output_eq, flatMap_part sound unbroken, Text.splitAt_flatMap]
  intro piece mem
  obtain ⟨emission, -, rfl⟩ := List.mem_map.mp mem
  exact lineFeed_not_mem_line _

/-- An event that was written has a line of its own in the output, in the order
of the events, if and only if the events before it leave no line open. -/
theorem ownLine_iff (writer : ω) {events : List Event} {earlier later : List Emission}
    {emission : Emission}
    (made : (new (.new writer)).emissions events = earlier ++ emission :: later)
    (written : emission.written = true) :
    emission.part = line emission.event ++ [10] ∧
      ((Text.splitAt 10 (output writer events))[lineNumber earlier]? = some (line emission.event) ↔
        ¬LeavesOpen earlier) ∧
      ∀ more, lineNumber earlier < lineNumber (earlier ++ emission :: more) := by
  have sound := (taken_emissions (new (.new writer)) events).1
  rw [made, List.forall_mem_append, List.forall_mem_cons] at sound
  obtain ⟨soundEarlier, soundHere, -⟩ := sound
  have part := soundHere.whole written
  refine ⟨part, ?_, lineNumber_lt (by simp [part]) earlier⟩
  rw [output_eq, made, List.flatMap_append, List.flatMap_cons, part, List.append_assoc,
    List.singleton_append, lineNumber, Text.splitAt_getElem?_iff (lineFeed_not_mem_line _),
    endsInside_iff soundEarlier]

/-- An event of no field. -/
def blankEvent (timestamp : UInt64) : Event := ⟨timestamp, ⟨.replicate ⟨false, 0⟩, .low⟩⟩

/-- Of three events the first is cut off, the second goes on with its line, and
the third has a line of its own. -/
theorem ownLine_iff_recovering :
    let cut : Emission := ⟨blankEvent 0, false, (line (blankEvent 0)).take 5⟩
    let next : Emission := ⟨blankEvent 1, true, line (blankEvent 1) ++ [10]⟩
    let last : Emission := ⟨blankEvent 2, true, line (blankEvent 2) ++ [10]⟩
    let events := [blankEvent 0, blankEvent 1, blankEvent 2]
    (new (.new (Scripted.recovering 5))).emissions events = [cut, next] ++ last :: [] ∧
      LeavesOpen [cut] ∧ ¬LeavesOpen [cut, next] ∧
      (Text.splitAt 10 (output (Scripted.recovering 5) events))[1]? = some (line (blankEvent 2)) := by
  intro cut next last events
  have made : (new (.new (Scripted.recovering 5))).emissions events = [cut, next] ++ last :: [] := by
    decide +kernel
  have opened : LeavesOpen [cut] :=
    (leavesOpen_concat [] cut).mpr (.inl ⟨rfl, by decide +kernel, by decide +kernel⟩)
  have ended : 10 ∈ next.part := List.mem_append_right _ (List.mem_singleton_self 10)
  have closed : ¬LeavesOpen [cut, next] := by
    rw [← List.singleton_append, leavesOpen_concat]
    rintro (cutOff | ⟨none, -⟩)
    · exact cutOff.2.2 ended
    · rw [none] at ended
      exact List.not_mem_nil ended
  have number : lineNumber [cut, next] = 1 := by decide +kernel
  have own := (ownLine_iff _ made rfl).2.1.mpr closed
  rw [number] at own
  exact ⟨made, opened, closed, own⟩

/-- An event that was written after another one was cut off has no line of its
own: it goes on with the line that was begun. -/
theorem not_ownLine_of_recovering :
    ∃ emission ∈ (new (.new (Scripted.recovering 5))).emissions [blankEvent 0, blankEvent 1],
      emission.written = true ∧
        line emission.event ∉
          Text.splitAt 10 (output (Scripted.recovering 5) [blankEvent 0, blankEvent 1]) := by
  decide +kernel

end JsonLines

end Magnetometer
