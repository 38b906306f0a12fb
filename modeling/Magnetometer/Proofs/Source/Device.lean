import Magnetometer.Source.Device

/-!
# Reading a device to its end

The content of a device file is cut into records from its front.  Reading takes
the records one by one, so that the samples which are read are those of the
ready records, in order; a short tail is taken by one read that fails, and every
read after it fails in the same way.
-/

namespace Magnetometer

/-! ## Streams -/

namespace Record

/-- The samples of the ready records of a stream.  A tail that is shorter than a
record has none. -/
def samples : Bytes → List Sample
  | status :: x0 :: x1 :: y0 :: y1 :: z0 :: z1 :: last :: rest =>
      (decode ⟨status, x0, x1, y0, y1, z0, z1, last⟩).toOption.toList ++ samples rest
  | _ => []

theorem samples_append (r : Record) (rest : Bytes) :
    samples (r.toBytes ++ rest) = r.decode.toOption.toList ++ samples rest := rfl

/-- A stream is shorter than a record, or has a record at its front. -/
theorem stream_cases (stream : Bytes) :
    stream.length < size ∨ ∃ r : Record, ∃ rest, stream = r.toBytes ++ rest := by
  match stream with
  | status :: x0 :: x1 :: y0 :: y1 :: z0 :: z1 :: last :: rest =>
      exact .inr ⟨⟨status, x0, x1, y0, y1, z0, z1, last⟩, rest, rfl⟩
  | [] | [_] | [_, _] | [_, _, _] | [_, _, _, _] | [_, _, _, _, _] | [_, _, _, _, _, _]
  | [_, _, _, _, _, _, _] =>
      left
      simp only [List.length_cons, List.length_nil]
      decide

theorem samples_of_short {stream : Bytes} (short : stream.length < size) :
    samples stream = [] := by
  unfold samples
  split
  · simp only [List.length_cons, size] at short
    omega
  · rfl

end Record

namespace Device

open Record (samples)

/-! ## Reads -/

theorem next_append (r : Record) (rest : Bytes) : next (r.toBytes ++ rest) = (r.decode, rest) := rfl

theorem next_of_short {stream : Bytes} (short : stream.length < Record.size) :
    next stream = (.error (.io .shortRead), []) := by
  have none : Record.ofBytes? (stream.take Record.size) = none := by
    rw [List.take_of_length_le (Nat.le_of_lt short)]
    unfold Record.ofBytes?
    split
    · exact absurd short (Nat.lt_irrefl _)
    · rfl
  rw [next, none]

/-- A read gives the first of the samples of a stream, or none of them, and leaves
the others. -/
theorem samples_next (stream : Bytes) :
    (next stream).1.toOption.toList ++ samples (next stream).2 = samples stream := by
  rcases Record.stream_cases stream with short | ⟨r, rest, rfl⟩
  · rw [next_of_short short, Record.samples_of_short short]
    rfl
  · rw [next_append, Record.samples_append]

/-- A read takes one record, as long as there is one. -/
theorem length_next (stream : Bytes) :
    (next stream).2.length / Record.size = stream.length / Record.size - 1 := by
  rcases Record.stream_cases stream with short | ⟨r, rest, rfl⟩
  · rw [next_of_short short, Nat.div_eq_of_lt short]
    rfl
  · rw [next_append, List.length_append, Record.length_toBytes,
      Nat.add_div_left _ (by decide : 0 < Record.size), Nat.succ_sub_one]

theorem next_suffix (stream : Bytes) : (next stream).2 <:+ stream := by
  rcases Record.stream_cases stream with short | ⟨r, rest, rfl⟩
  · rw [next_of_short short]
    exact List.nil_suffix
  · exact List.suffix_append _ _

variable {files : FileSystem} {device : Device} {content : Bytes}

/-- What of a content a device has not read. -/
def unread (device : Device) (content : Bytes) : Bytes := content.drop device.position

/-- A read takes from the file that was opened. -/
theorem location_acquire (files : FileSystem) (device : Device) :
    (device.acquire files).1.location = device.location := by
  unfold acquire
  split <;> rfl

theorem outcome_acquire (stream : files.contentAt device.location = .ok content) :
    (device.acquire files).2 = (next (device.unread content)).1 := by
  rw [acquire, stream]
  rfl

/-- A read leaves what follows the record that it took. -/
theorem unread_acquire (stream : files.contentAt device.location = .ok content) :
    (device.acquire files).1.unread content = (next (device.unread content)).2 := by
  obtain ⟨before, split⟩ := next_suffix (device.unread content)
  have whole := congrArg List.length split
  rw [acquire, stream]
  change content.drop (max device.position (content.length - _)) = _
  unfold unread at split whole ⊢
  generalize (next (content.drop device.position)).2 = rest at *
  rw [List.length_append, List.length_drop] at whole
  rcases Nat.le_total content.length device.position with past | inside
  · rw [List.drop_of_length_le past] at split
    rw [(List.append_eq_nil_iff.mp split).2, List.drop_of_length_le (by omega)]
  · have reached : max device.position (content.length - rest.length) =
        device.position + before.length := by omega
    rw [reached, ← List.drop_drop, ← split, List.drop_left]

theorem recordsLeft_eq (stream : files.contentAt device.location = .ok content) :
    device.recordsLeft files = (device.unread content).length / Record.size := by
  rw [recordsLeft, stream, unread, List.length_drop]

/-- A device without a whole record left has no sample left. -/
theorem samples_unread_of_recordsLeft (stream : files.contentAt device.location = .ok content)
    (none : device.recordsLeft files = 0) : samples (device.unread content) = [] := by
  rw [recordsLeft_eq stream, Nat.div_eq_zero_iff_lt (by decide)] at none
  exact Record.samples_of_short none

end Device

end Magnetometer
