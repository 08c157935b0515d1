import DriverExtension.Lifecycle.Controller

namespace DriverExtension

open Log

/-!
# One request from the command line

The command line submits a single request and waits for its outcome.  The first terminal event of
the request decides; what comes after it is not looked at.

* `Attempt.begin` — the submission;
* `Attempt.look` — a look at what has arrived since.
-/

/-- How far an attempt has come. -/
inductive Verdict where
  /-- The request finished, with whatever result. -/
  | succeeded
  | failed
  /-- Nothing has decided yet. -/
  | waiting
  /-- Nothing will decide any more. -/
  | lost (f : Fault)
deriving DecidableEq, Repr

/-- What a received event says about the attempt that waited for it. -/
def Reception.verdict : Reception → Verdict
  | .event (.finished ..) => .succeeded
  | .event _ => .failed
  | .pending => .waiting
  | .closed => .lost .receiveClosed

namespace Attempt

/-- The target of records about the run of the program. -/
def target : String := "dext_installer"

/-- The record of the wait. -/
def waiting (r : Request) : Record :=
  ⟨.info, target, s!"Waiting for the system to {r.kind} {r.identifier}..."⟩

/-- The record of a wait that the user ends. -/
def interrupted (r : Request) : Record :=
  ⟨.warn, target, s!"Interrupted; request {r.id} keeps running under system control"⟩

/-- Submits a request.  Returns it if it was accepted, then the controller, the manager and the
channel afterwards, and the records. -/
def begin (c : Controller) (kind : RequestKind) (m : Manager) (channel : Channel) :
    Except Fault Request × Controller × Manager × Channel × List Record :=
  let (result, c, m, channel, records) := c.submit kind m channel
  (result, c, m, channel, records ++ (match result with
    | .ok r => [waiting r]
    | .error _ => []))

/-- Looks at the events that have arrived. -/
def look (r : Request) (sinks : Bool) (channel : Channel) : Verdict × Channel × List Record :=
  let (reception, left, records) := Wait.poll sinks r.id channel.queue
  (reception.verdict, { channel with queue := left }, records)

end Attempt
end DriverExtension
