import DriverExtension.Lifecycle.Controller

namespace DriverExtension

open Log

/-!
# Sessions

A session is a controller over a manager, with the channel that the callbacks arrive on.  The
controller and the handle on the manager can be dropped.  Sinks are held by the controller and by
the recorded delegates, and these live as long as the controller or the handle does.

A recorded delegate can be copied.  Copies are kept in slots; a copy holds a sink of its own, answers
callbacks like the delegate that it was taken from, and outlives the manager.
-/

/-- A controller, its manager and their channel. -/
structure Session where
  channel : Channel
  controller : Option Controller
  manager : Manager
  /-- Whether the recorder can be asked for its delegates. -/
  handle : Bool
  /-- The copies of delegates; a slot is empty after its copy was dropped. -/
  copies : List (Option Delegate)
deriving DecidableEq

/-- An operation on a copy of a delegate. -/
inductive CopyStep where
  | callback (callback : Callback)
  | clone
  | drop
deriving DecidableEq

/-- An operation on a session. -/
inductive SessionStep where
  | submit (kind : RequestKind)
  /-- A callback on a recorded delegate, the last one where no number is given. -/
  | callback (n : Option Nat) (callback : Callback)
  /-- Copies a recorded delegate, the last one where no number is given, into a new slot. -/
  | copy (n : Option Nat)
  /-- An operation on the copy of a slot. -/
  | onCopy (slot : Nat) (step : CopyStep)
  | stream (slot : Nat) (step : StreamStep)
  | dropController
  | dropHandle
deriving DecidableEq

/-- The answer to an operation on a session. -/
inductive SessionReply where
  | submitted (result : Except Fault Request)
  | answered (action : Option ReplacementAction)
  | stream (reply : Reply)
  | done
  /-- The controller was dropped. -/
  | noController
  /-- There is no recorder to ask. -/
  | noRecorder
  | noDelegate

namespace Session

/-- A new session. -/
def new (identifier : Identifier) (policy : ReplacementPolicy) (manager : Manager) : Session where
  channel := .new
  controller := some (.new identifier policy)
  manager := manager
  handle := match manager with
    | .recorder .. => true
    | _ => false
  copies := []

/-- Whether some sink is left. -/
def hasSinks (s : Session) : Bool :=
  s.controller.isSome || (s.handle && !s.manager.submitted.isEmpty) || s.copies.any Option.isSome

/-- The recorded delegates, if they can be asked for. -/
def delegates? (s : Session) : Option (List Delegate) :=
  if s.handle then some s.manager.submitted else none

/-- The delegate of a number, the last one where no number is given. -/
def delegate (s : Session) (n : Option Nat) : Except SessionReply Delegate :=
  match s.delegates? with
  | none => .error .noRecorder
  | some ds =>
    match (match n with
      | some n => ds[n]?
      | none => ds.getLast?) with
    | some d => .ok d
    | none => .error .noDelegate

/-- Submits a request through the controller. -/
def submit (s : Session) (kind : RequestKind) : SessionReply × Session × List Record :=
  match s.controller with
  | none => (.noController, s, [])
  | some controller =>
    let (result, controller, manager, channel, records) :=
      controller.submit kind s.manager s.channel
    (.submitted result, { s with channel, controller := some controller, manager }, records)

/-- A callback on a delegate. -/
def call (s : Session) (d : Delegate) (callback : Callback) :
    SessionReply × Session × List Record :=
  let (action, channel, records) := d.call callback s.channel
  (.answered action, { s with channel }, records)

/-- One operation on the copy of a slot. -/
def copyStep (s : Session) (slot : Nat) (step : CopyStep) : SessionReply × Session × List Record :=
  match s.copies[slot]? with
  | some (some d) =>
    match step with
    | .callback callback => s.call d callback
    | .clone => (.done, { s with copies := s.copies ++ [some d] }, [])
    | .drop => (.done, { s with copies := s.copies.set slot none }, [])
  | _ => (.noDelegate, s, [])

/-- One operation. -/
def step (s : Session) : SessionStep → SessionReply × Session × List Record
  | .submit kind => s.submit kind
  | .callback n callback =>
    match s.delegate n with
    | .error reply => (reply, s, [])
    | .ok d => s.call d callback
  | .copy n =>
    match s.delegate n with
    | .error reply => (reply, s, [])
    | .ok d => (.done, { s with copies := s.copies ++ [some d] }, [])
  | .onCopy slot step => s.copyStep slot step
  | .stream slot step =>
    let (reply, channel, records) := s.channel.stream s.hasSinks slot step
    (.stream reply, { s with channel }, records)
  | .dropController => (.done, { s with controller := none }, [])
  | .dropHandle => (.done, { s with handle := false }, [])

/-- The session after a list of operations. -/
def run (s : Session) (steps : List SessionStep) : Session :=
  steps.foldl (fun s step => (s.step step).2.1) s

end Session
end DriverExtension
