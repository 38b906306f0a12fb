import Magnetometer.Sink.JsonLines

/-!
# Sinks of any kind

A queue, JSON lines or a teller, chosen when a program starts.
-/

namespace Magnetometer

/-- A sink of any kind. -/
inductive AnySink where
  | list (events : List Event)
  | queue (queue : Queue)
  | lines (lines : JsonLines BudgetWriter)
  | teller (teller : Teller)
deriving Repr

namespace AnySink

instance : EventSink AnySink where
  emit
    | list events, event => (EventSink.emit events event).map list id
    | queue q, event => (EventSink.emit q event).map queue id
    | lines sink, event => (EventSink.emit sink event).map lines id
    | teller t, event => (EventSink.emit t event).map teller id

/-- Take out the events that wait. -/
def drain : AnySink → AnySink × List Event
  | list events => (list [], events)
  | queue q => q.drain.map queue id
  | sink => (sink, [])

/-- Take out the bytes that were written. -/
def takeBytes : AnySink → AnySink × Bytes
  | lines sink =>
      (lines { sink with writer := { sink.writer with taken := [] } }, sink.writer.taken)
  | sink => (sink, [])

/-- Give up the receiver, if there is one. -/
def disconnect : AnySink → AnySink
  | queue q => queue q.disconnect
  | sink => sink

/-- Change the writer, if there is one. -/
def updateWriter (f : BudgetWriter → BudgetWriter) : AnySink → AnySink
  | lines sink => lines { sink with writer := f sink.writer }
  | sink => sink

end AnySink

end Magnetometer
