import DriverExtension.Bridge.Channel

namespace DriverExtension

open Log

/-!
# Delegates

A delegate answers the callbacks of the system for one request.  Each callback becomes one event on
the channel; when nobody listens any more the event is dropped with a record, and the answer to the
system is the same.
-/

/-- The receiver of the callbacks for one request. -/
structure Delegate where
  request : Request
  policy : ReplacementPolicy
deriving DecidableEq

/-- A callback with its arguments. -/
inductive Callback where
  | replacementNeeded (existing replacement : Bundle)
  | approvalNeeded
  | finished (result : Completion)
  | failed (failure : Failure)
deriving DecidableEq, Repr

namespace Delegate

/-- The target of records about callbacks. -/
def target : String := "common::manager"

/-- The event of a callback. -/
def event (d : Delegate) : Callback → Event
  | .replacementNeeded existing replacement =>
    .replacementNeeded d.request existing replacement (d.policy.decide existing replacement)
  | .approvalNeeded => .approvalNeeded d.request
  | .finished result => .finished d.request result
  | .failed failure => .failed d.request failure

/-- The answer to a callback; only the question of replacement has one. -/
def answer (d : Delegate) : Callback → Option ReplacementAction
  | .replacementNeeded existing replacement => some (d.policy.decide existing replacement)
  | _ => none

/-- The record of a callback that nobody hears. -/
def dropped (d : Delegate) (f : Fault) : Record :=
  ⟨.debug, target, s!"Dropping {d.request.kind} callback for {d.request.id}: {f.message}"⟩

/-- Sends an event. -/
def emit (d : Delegate) (e : Event) (c : Channel) : Channel × List Record :=
  match c.send e with
  | .ok c => (c, [])
  | .error f => (c, [d.dropped f])

/-- Performs a callback. -/
def call (d : Delegate) (callback : Callback) (c : Channel) :
    Option ReplacementAction × Channel × List Record :=
  let (c, records) := d.emit (d.event callback) c
  (d.answer callback, c, records)

end Delegate
end DriverExtension
