import Magnetometer.Notice

/-!
# Event sinks

Receivers of calibrated vectors.  A sink takes every event it is offered in its
own way: it may keep it, pass it on, or give a notice that it was lost.
-/

namespace Magnetometer

/-- The operation of a receiver of events. -/
class EventSink (κ : Type) where
  /-- Take an event. -/
  emit : κ → Event → κ × List Notice

/-- A list takes every event, newest last. -/
instance : EventSink (List Event) where
  emit events event := (events ++ [event], [])

/-- A queue to a receiver.  Without a bound it takes every event; with one it
turns away what does not fit.  A queue of no room delivers nothing. -/
structure Queue where
  /-- Most events that wait at once. -/
  bound : Option Nat
  /-- Whether there is a receiver. -/
  connected : Bool
  /-- Events that wait, oldest first. -/
  waiting : List Event
deriving DecidableEq, Repr

namespace Queue

/-- A queue that takes every event. -/
def unbounded : Queue := ⟨none, true, []⟩

/-- A queue that holds a given number of events. -/
def bounded (bound : Nat) : Queue := ⟨some bound, true, []⟩

/-- Whether another event fits. -/
def hasRoom (q : Queue) : Bool := q.bound.all fun bound => q.waiting.length < bound

/-- Give up the receiver, and with it what waits. -/
def disconnect (q : Queue) : Queue := { q with connected := false, waiting := [] }

/-- Take out all that waits. -/
def drain (q : Queue) : Queue × List Event := ({ q with waiting := [] }, q.waiting)

instance : EventSink Queue where
  emit q event :=
    if !q.connected then (q, [.receiverGone])
    else if q.hasRoom then ({ q with waiting := q.waiting ++ [event] }, [])
    else (q, [.queueFull])

end Queue

/-- A sink that tells every event as a notice. -/
structure Teller where
deriving DecidableEq, Repr

instance : EventSink Teller where
  emit teller event := (teller, [.event event])

end Magnetometer
