import Magnetometer.Proofs.FileSystem
import Magnetometer.Proofs.Source.Device

/-!
# The framing of a device stream

Each read of a device takes the next eight bytes of its file, whatever they say.
So the number of a read fixes the bytes that decide what it comes to, and no
record can shift the ones after it; reads past the last whole record fail.
`Framed` states this by the indices of the bytes, and that the ready records of
any samples read back as these samples.
-/

namespace Magnetometer

namespace Record

/-- The signed number of 16 bits with its low byte at an index of a content and
its high byte behind it. -/
def numberAt (content : Bytes) (index : Nat) : Int16 :=
  .ofBitVec ((content.getD (index + 1) 0).toBitVec ++ (content.getD index 0).toBitVec)

/-- What the record at an index of a content stands for, told from single bits
and bytes: the lowest bit of the first byte, and three numbers behind it. -/
def standsAt (content : Bytes) (index : Nat) : Except SensorError Sample :=
  if (content.getD index 0).toBitVec.getLsbD 0 then
    .ok ⟨numberAt content (index + 1), numberAt content (index + 3), numberAt content (index + 5)⟩
  else
    .error .notReady

/-- Two bytes make the number of their bits. -/
theorem littleEndian_eq (low high : UInt8) :
    littleEndian low high = .ofBitVec (high.toBitVec ++ low.toBitVec) := by
  have low_lt := low.toNat_lt
  have bits : (high.toBitVec ++ low.toBitVec).toNat = low.toNat + 256 * high.toNat := by
    rw [BitVec.toNat_append, ← Nat.shiftLeft_add_eq_or_of_lt (by exact low_lt), Nat.shiftLeft_eq]
    change high.toNat * 256 + low.toNat = _
    omega
  have high_lt := high.toNat_lt
  apply Int16.toBitVec_inj.mp
  change BitVec.ofInt 16 _ = high.toBitVec ++ low.toBitVec
  apply BitVec.eq_of_toNat_eq
  rw [bits, BitVec.toNat_ofInt]
  omega

theorem isReady_eq (r : Record) : r.isReady = r.status.toBitVec.getLsbD 0 := by
  rw [isReady, BitVec.getLsbD, Nat.testBit_zero]
  rfl

/-- A record at the front of a stream decodes to what its bytes stand for. -/
theorem decode_eq_standsAt (r : Record) (rest : Bytes) :
    r.decode = standsAt (r.toBytes ++ rest) 0 := by
  rw [decode, isReady_eq, littleEndian_eq, littleEndian_eq, littleEndian_eq]
  rfl

/-- What stands behind a record does not depend on it. -/
theorem standsAt_append (r : Record) (rest : Bytes) (index : Nat) :
    standsAt (r.toBytes ++ rest) (index + size) = standsAt rest index := by
  have behind : ∀ place, (r.toBytes ++ rest).getD (place + size) 0 = rest.getD place 0 := by
    intro place
    rw [List.getD_eq_getElem?_getD, List.getD_eq_getElem?_getD,
      List.getElem?_append_right (by rw [length_toBytes]; exact Nat.le_add_left _ _),
      length_toBytes, Nat.add_sub_cancel]
  simp only [standsAt, numberAt, Nat.add_right_comm _ size, behind]

end Record

namespace Device

open Record (size standsAt)

/-! ## What reads come to -/

/-- What the read of a number comes to, as long as a whole record is there for
it. -/
def outcomeAt (content : Bytes) (number : Nat) : Except SensorError Sample :=
  if number < content.length / size then standsAt content (number * size)
  else .error (.io .shortRead)

theorem outcomeAt_zero (stream : Bytes) : outcomeAt stream 0 = (next stream).1 := by
  rcases Record.stream_cases stream with short | ⟨r, rest, rfl⟩
  · rw [next_of_short short, outcomeAt, Nat.div_eq_of_lt short]
    rfl
  · have whole : 0 < (r.toBytes ++ rest).length / size := by
      rw [List.length_append, Record.length_toBytes, Nat.add_div_left _ (by decide)]
      exact Nat.succ_pos _
    rw [next_append, outcomeAt, if_pos whole, Nat.zero_mul, ← Record.decode_eq_standsAt]

/-- What a later read comes to is decided behind the record that was read. -/
theorem outcomeAt_succ (stream : Bytes) (number : Nat) :
    outcomeAt stream (number + 1) = outcomeAt (next stream).2 number := by
  rcases Record.stream_cases stream with short | ⟨r, rest, rfl⟩
  · rw [next_of_short short, outcomeAt, Nat.div_eq_of_lt short]
    rfl
  · rw [next_append, outcomeAt, outcomeAt, List.length_append, Record.length_toBytes,
      Nat.add_div_left _ (by decide), Nat.succ_mul, Record.standsAt_append]
    simp only [Nat.succ_lt_succ_iff]

/-- What reads of a stream come to, one after another. -/
def outcomes : Nat → Bytes → List (Except SensorError Sample)
  | 0, _ => []
  | count + 1, stream => (next stream).1 :: outcomes count (next stream).2

theorem outcomes_eq (count : Nat) (stream : Bytes) :
    outcomes count stream = (List.range count).map (outcomeAt stream) := by
  induction count generalizing stream with
  | zero => rfl
  | succ count ih =>
      rw [outcomes, ih, List.range_succ_eq_map, List.map_cons, List.map_map, outcomeAt_zero]
      congr 1
      apply List.map_congr_left
      intro number _
      exact (outcomeAt_succ stream number).symm

theorem outcomes_of_short {stream : Bytes} (short : stream.length < size) (count : Nat) :
    outcomes count stream = .replicate count (.error (.io .shortRead)) := by
  induction count generalizing stream with
  | zero => rfl
  | succ count ih =>
      rw [outcomes, next_of_short short, List.replicate_succ, ih (by decide)]

/-- Whole records are read one by one, ready or not; what is left behind them is
no record. -/
theorem outcomes_flatMap (records : List Record) {tail : Bytes} (short : tail.length < size)
    (more : Nat) :
    outcomes (records.length + more) (records.flatMap Record.toBytes ++ tail) =
      records.map Record.decode ++ .replicate more (.error (.io .shortRead)) := by
  induction records with
  | nil =>
      rw [List.length_nil, Nat.zero_add]
      exact outcomes_of_short short more
  | cons r rest ih =>
      rw [List.length_cons, Nat.add_right_comm, List.flatMap_cons, List.append_assoc, outcomes,
        next_append, ih, List.map_cons, List.cons_append]

/-! ## Reads of a device -/

/-- What the first reads of a device come to. -/
def acquires (files : FileSystem) : Nat → Device → List (Except SensorError Sample)
  | 0, _ => []
  | count + 1, device => (device.acquire files).2 :: acquires files count (device.acquire files).1

/-- The device after its first reads. -/
def afterReads (files : FileSystem) : Nat → Device → Device
  | 0, device => device
  | count + 1, device => afterReads files count (device.acquire files).1

variable {files : FileSystem} {device : Device} {content : Bytes}

theorem acquires_eq (device : Device) (stream : files.contentAt device.location = .ok content)
    (count : Nat) : device.acquires files count = outcomes count (device.unread content) := by
  induction count generalizing device with
  | zero => rfl
  | succ count ih =>
      have later := ih (device.acquire files).1 (by rw [location_acquire]; exact stream)
      rw [acquires, later, outcomes, outcome_acquire stream, unread_acquire stream]

theorem length_rest (stream : Bytes) : (next stream).2.length = stream.length - size := by
  rcases Record.stream_cases stream with short | ⟨r, rest, rfl⟩
  · rw [next_of_short short, Nat.sub_eq_zero_of_le (Nat.le_of_lt short)]
    rfl
  · rw [next_append, List.length_append, Record.length_toBytes, Nat.add_sub_cancel_left]

/-- A read moves on by a record, or to the end. -/
theorem position_acquire (stream : files.contentAt device.location = .ok content)
    (within : device.position ≤ content.length) :
    (device.acquire files).1.position = min (device.position + size) content.length := by
  have moved : (device.acquire files).1.position = max device.position
      (content.length - (next (content.drop device.position)).2.length) := by
    rw [acquire, stream]
  rw [moved, length_rest, List.length_drop]
  omega

theorem position_afterReads (device : Device)
    (stream : files.contentAt device.location = .ok content)
    (within : device.position ≤ content.length) (count : Nat) :
    (device.afterReads files count).position =
      min (device.position + count * size) content.length := by
  induction count generalizing device with
  | zero => simp [afterReads, within]
  | succ count ih =>
      have moved := position_acquire stream within
      rw [afterReads, ih _ (by rw [location_acquire]; exact stream) (by omega), moved,
        Nat.succ_mul]
      omega

/-- How an open device reads the content of its file. -/
structure Framed (files : FileSystem) (device : Device) (content : Bytes) : Prop where
  /-- Every read comes to what the eight bytes of its number stand for, and to a
  failure where there are no eight bytes left. -/
  outcome : ∀ count, device.acquires files count = (List.range count).map (outcomeAt content)
  /-- A read takes eight bytes, or all that is left. -/
  position : ∀ count,
    (device.afterReads files count).position = min (count * size) content.length
  /-- The ready records of samples read back as these samples, and nothing else
  does. -/
  readBack : ∀ (samples : List Sample) (tail : Bytes) (more : Nat),
    content = samples.flatMap (fun sample => (Record.encode sample).toBytes) ++ tail →
    tail.length < size →
    device.acquires files (samples.length + more) =
      samples.map .ok ++ .replicate more (.error (.io .shortRead))

/-- A device that was just opened reads its file record by record. -/
theorem framed_of_open {path fusePath : Path}
    (opened : Device.open files path fusePath = .ok device)
    (read : files.read path = .ok content) : Framed files device content := by
  obtain ⟨location, resolved, stream⟩ := FileSystem.bind_eq_ok_iff.mp read
  rw [Device.open, resolved, Except.ok.injEq] at opened
  subst opened
  have reads := acquires_eq ⟨path, location, fusePath, 0⟩ stream
  constructor
  case outcome =>
    intro count
    rw [reads, outcomes_eq]
    rfl
  case position =>
    intro count
    have moved := position_afterReads ⟨path, location, fusePath, 0⟩ stream
      (Nat.zero_le _) count
    rwa [Nat.zero_add] at moved
  case readBack =>
    rintro samples tail more rfl short
    have whole := outcomes_flatMap (samples.map Record.encode) short more
    rw [List.length_map, List.flatMap_map, List.map_map] at whole
    rw [reads]
    refine whole.trans ?_
    congr 1
    exact List.map_congr_left fun sample _ => Record.decode_encode sample

/-- A device whose file holds a ready record, one that is not ready, a ready one
with other bits and bytes set, and a part of a record. -/
theorem framed_of_open_mixed :
    let content : Bytes := [1, 0xFE, 0xFF, 2, 0, 0, 0x80, 0] ++ [0xFE, 9, 9, 9, 9, 9, 9, 9] ++
      [0xFF, 3, 0, 4, 0, 5, 0, 0xAA] ++ [1, 6, 0]
    let files := FileSystem.empty.put [[100]] (.file content)
    Device.open files ⟨[100]⟩ ⟨[97]⟩ = .ok ⟨⟨[100]⟩, [[100]], ⟨[97]⟩, 0⟩ ∧
      files.read ⟨[100]⟩ = .ok content ∧
      Device.acquires files 4 ⟨⟨[100]⟩, [[100]], ⟨[97]⟩, 0⟩ =
        [.ok ⟨-2, 2, -32768⟩, .error .notReady, .ok ⟨3, 4, 5⟩, .error (.io .shortRead)] ∧
      Framed files ⟨⟨[100]⟩, [[100]], ⟨[97]⟩, 0⟩ content :=
  ⟨rfl, rfl, rfl, @framed_of_open _ _ _ ⟨[100]⟩ ⟨[97]⟩ rfl rfl⟩

end Device

end Magnetometer
