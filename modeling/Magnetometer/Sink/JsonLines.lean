import Magnetometer.Json.Forms
import Magnetometer.Sink.Basic

/-!
# Lines of JSON

A sink that writes every event as one line of JSON to a writer.  A writer may
take only part of what it is given, or fail; the sink then gives the event up,
and of a run of failures only the first is told.
-/

namespace Magnetometer

/-- The operations of a byte writer. -/
class ByteWriter (ω : Type) where
  /-- Offer bytes; the writer tells how many of them it took. -/
  write : ω → Bytes → ω × Except Fault Nat
  /-- Pass on what was taken. -/
  flush : ω → ω × Except Fault Unit

namespace ByteWriter

variable {ω : Type} [ByteWriter ω]

/-- Write all of some bytes, offering what is left until nothing is.  A writer
that takes nothing fails; the first argument bounds the number of offers. -/
def writeAllWithin : Nat → ω → Bytes → ω × Except Fault Unit
  | 0, writer, _ => (writer, .ok ())
  | offers + 1, writer, bytes =>
      if bytes = [] then
        (writer, .ok ())
      else
        match write writer bytes with
        | (writer, .error fault) => (writer, .error fault)
        | (writer, .ok 0) => (writer, .error .nothingWritten)
        | (writer, .ok (taken + 1)) => writeAllWithin offers writer (bytes.drop (taken + 1))

/-- Write all of some bytes.  Every offer is shorter than the one before. -/
def writeAll (writer : ω) (bytes : Bytes) : ω × Except Fault Unit :=
  writeAllWithin bytes.length writer bytes

/-- Write several byte sequences one after the other. -/
def writeParts (writer : ω) : List Bytes → ω × Except Fault Unit
  | [] => (writer, .ok ())
  | bytes :: rest =>
      match writeAll writer bytes with
      | (writer, .error fault) => (writer, .error fault)
      | (writer, .ok ()) => writeParts writer rest

end ByteWriter

/-- A sink of JSON lines. -/
structure JsonLines (ω : Type) where
  writer : ω
  /-- Whether the last event was given up. -/
  failed : Bool
deriving DecidableEq, Repr

namespace JsonLines

variable {ω : Type} [ByteWriter ω]

/-- A sink on a writer. -/
def new (writer : ω) : JsonLines ω := ⟨writer, false⟩

/-- The line of an event, without its line feed. -/
def line (event : Event) : Bytes := Text.Utf8.encode event.toJson

/-- Write the line of an event and pass it on. -/
def writeEvent (writer : ω) (event : Event) : ω × Except Fault Unit :=
  match ByteWriter.writeParts writer [line event, [10]] with
  | (writer, .error fault) => (writer, .error fault)
  | (writer, .ok ()) => ByteWriter.flush writer

instance : EventSink (JsonLines ω) where
  emit sink event :=
    match writeEvent sink.writer event with
    | (writer, .ok ()) => (⟨writer, false⟩, [])
    | (writer, .error fault) =>
        (⟨writer, true⟩, if sink.failed then [] else [.eventUnwritten fault])

end JsonLines

/-- A writer that takes a limited number of bytes and keeps them, and that can
be told to refuse flushing. -/
structure BudgetWriter where
  /-- Bytes taken, oldest first. -/
  taken : Bytes
  /-- Bytes that it still takes; none for no limit. -/
  budget : Option Nat
  refusesFlush : Bool
deriving DecidableEq, Repr

namespace BudgetWriter

/-- A writer without limits. -/
def unlimited : BudgetWriter := ⟨[], none, false⟩

instance : ByteWriter BudgetWriter where
  write w bytes :=
    match w.budget with
    | none => ({ w with taken := w.taken ++ bytes }, .ok bytes.length)
    | some 0 => (w, .error (.other "budget spent"))
    | some left =>
        let count := min left bytes.length
        ({ w with taken := w.taken ++ bytes.take count, budget := some (left - count) }, .ok count)
  flush w := (w, if w.refusesFlush then .error (.other "flush refused") else .ok ())

end BudgetWriter

end Magnetometer
