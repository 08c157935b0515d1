import DriverExtension.Log.Event

namespace DriverExtension

open Log

/-!
# Waiting for the outcome of a request

`Wait.poll` consumes a queue of events up to the terminal event of one request.  Every consumed
event is logged; an event of another request is logged a second time as ignored.
-/

/-- What a receiver gets. -/
inductive Reception where
  | event (e : Event)
  /-- Nothing is queued, but something may still come. -/
  | pending
  /-- Nothing is queued and nothing will come. -/
  | closed
deriving DecidableEq

namespace Wait

/-- The record of an event that belongs to another request than the awaited one. -/
def ignored (e : Event) (id : RequestId) : Record :=
  ⟨.debug, lifecycleTarget, s!"Ignoring event for {e.request.id} while waiting on {id}"⟩

/-- The records of one consumed event. -/
def records (id : RequestId) (e : Event) : List Record :=
  if e.request.id = id then [e.record] else [e.record, ignored e id]

/-- Whether an event ends the wait. -/
def settles (id : RequestId) (e : Event) : Bool := e.request.id = id && e.isTerminal

/-- Consumes events until the wait is over or the queue is empty.  Returns what was received, the
events that are left, and the records; `sinks` tells whether more events may come. -/
def poll (sinks : Bool) (id : RequestId) : List Event → Reception × List Event × List Record
  | [] => (if sinks then .pending else .closed, [], [])
  | e :: rest =>
    if settles id e then (.event e, rest, records id e)
    else
      let (reception, left, logged) := poll sinks id rest
      (reception, left, records id e ++ logged)

end Wait
end DriverExtension
