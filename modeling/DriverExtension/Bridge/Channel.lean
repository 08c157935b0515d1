import DriverExtension.Bridge.Wait

namespace DriverExtension

open Log

/-!
# The channel between callbacks and receivers

A channel is a queue of events without bound.  Any number of streams take from the same queue; each
event is received once.  Streams are kept in slots, and a slot stays empty after its stream was
dropped.

* `Channel.send` — accepted as long as some stream is left;
* `Channel.stream` — one operation on the stream of a slot.
-/

/-- A queue of events and the slots of its streams; a slot tells whether its stream is there. -/
structure Channel where
  queue : List Event
  streams : List Bool
deriving DecidableEq

namespace Channel

/-- A new channel has one stream and no events. -/
def new : Channel := ⟨[], [true]⟩

/-- Whether some stream is left. -/
def isOpen (c : Channel) : Bool := c.streams.any id

/-- Appends an event; refused when no stream is left. -/
def send (c : Channel) (e : Event) : Except Fault Channel :=
  if c.isOpen then .ok { c with queue := c.queue ++ [e] } else .error .sendClosed

/-- Whether the slot holds a stream. -/
def hasStream (c : Channel) (slot : Nat) : Bool := c.streams[slot]? = some true

/-- What every slot sees: the length of the queue where there is a stream. -/
def lengths (c : Channel) : List (Option Nat) :=
  c.streams.map fun s => if s then some c.queue.length else none

end Channel

/-- An operation on a stream. -/
inductive StreamStep where
  | clone
  | drop
  | tryReceive
  | receive
  | length
  | isEmpty
  /-- Receives until nothing is queued. -/
  | drain
  /-- Waits for the outcome of a request as long as something is queued. -/
  | wait (id : RequestId)
deriving DecidableEq, Repr

/-- The answer to an operation on a channel. -/
inductive Reply where
  | done
  | sent
  | flag (b : Bool)
  | number (n : Nat)
  | noEvent
  | received (r : Reception)
  | drained (events : List Event)
  | fault (f : Fault)
  | noStream (slot : Nat)
  | noSink (slot : Nat)
deriving DecidableEq

namespace Channel

/-- One operation on the stream of a slot; `sinks` tells whether some sink is left. -/
def stream (sinks : Bool) (slot : Nat) (step : StreamStep) (c : Channel) :
    Reply × Channel × List Record :=
  if !c.hasStream slot then (.noStream slot, c, [])
  else
    match step with
    | .clone => (.number c.streams.length, { c with streams := c.streams ++ [true] }, [])
    | .drop => (.done, { c with streams := c.streams.set slot false }, [])
    | .tryReceive =>
      match c.queue with
      | [] => (.noEvent, c, [])
      | e :: rest => (.received (.event e), { c with queue := rest }, [])
    | .receive =>
      match c.queue with
      | [] => (.received (if sinks then .pending else .closed), c, [])
      | e :: rest => (.received (.event e), { c with queue := rest }, [])
    | .length => (.number c.queue.length, c, [])
    | .isEmpty => (.flag c.queue.isEmpty, c, [])
    | .drain => (.drained c.queue, { c with queue := [] }, [])
    | .wait id =>
      let (reception, left, records) := Wait.poll sinks id c.queue
      (.received reception, { c with queue := left }, records)

end Channel
end DriverExtension
