import DriverExtension.Identifier

namespace DriverExtension

/-!
# Faults

What can go wrong between the wish for a request and its submission.
-/

/-- A failed operation. -/
inductive Fault where
  | identifier (cause : IdentifierError)
  /-- The system refused a request. -/
  | submission (reason : String)
  /-- There is no system to submit to. -/
  | unsupported (reason : String)
  /-- The other side of the event bridge is gone. -/
  | channel (reason : String)
  | configuration (reason : String)
  | inputOutput (reason : String)
deriving DecidableEq, Repr

namespace Fault

/-- The wording of a fault. -/
def message : Fault → String
  | .identifier cause => "Invalid extension identifier: " ++ cause.message
  | .submission reason => "Request submission failed: " ++ reason
  | .unsupported reason => "Unsupported platform: " ++ reason
  | .channel reason => "Channel error: " ++ reason
  | .configuration reason => "Configuration error: " ++ reason
  | .inputOutput reason => "IO error: " ++ reason

/-- Sending after the last stream is gone. -/
def sendClosed : Fault := .channel "sending into a closed channel"

/-- Receiving when nothing is queued and the last sink is gone. -/
def receiveClosed : Fault := .channel "receiving from an empty and closed channel"

end Fault
end DriverExtension
