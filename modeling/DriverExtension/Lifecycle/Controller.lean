import DriverExtension.Lifecycle.Manager

namespace DriverExtension

open Log

/-!
# The lifecycle controller

A controller builds requests for one extension, numbers them and submits them.  The number is used
up whether or not the request is accepted.
-/

/-- The target extension, the policy of its delegates and the number of the next request. -/
structure Controller where
  identifier : Identifier
  policy : ReplacementPolicy
  next : RequestId
deriving DecidableEq

namespace Controller

/-- A new controller numbers its requests from one. -/
def new (identifier : Identifier) (policy : ReplacementPolicy) : Controller :=
  ⟨identifier, policy, ⟨1⟩⟩

/-- The next request. -/
def request (c : Controller) (kind : RequestKind) : Request := ⟨c.next, kind, c.identifier⟩

/-- The record of a submission. -/
def submitting (c : Controller) (kind : RequestKind) (m : Manager) : Record :=
  ⟨.info, lifecycleTarget,
    s!"Submitting {kind} request {c.next} for {c.identifier} via {m.name}"⟩

/-- The controller after a submission. -/
def advance (c : Controller) : Controller := { c with next := c.next.next }

/-- Submits a request.  Returns it if it was accepted, then the controller, the manager and the
channel afterwards, and the records. -/
def submit (c : Controller) (kind : RequestKind) (m : Manager) (channel : Channel) :
    Except Fault Request × Controller × Manager × Channel × List Record :=
  let request := c.request kind
  let (accepted, m', channel, records) := m.submit ⟨request, c.policy⟩ channel
  (accepted.map fun _ => request, c.advance, m', channel, c.submitting kind m :: records)

end Controller
end DriverExtension
