import DriverExtension.Bundle
import DriverExtension.Completion
import DriverExtension.Request

namespace DriverExtension

/-!
# Lifecycle events

The system reports on a request through four callbacks; each becomes one `Event`.  Any number of
events may arrive for a request, in an order that the system decides; after a terminal one it is
done with the request.

A written event is an object with its tag among the members, or an array with its tag first.  The
tag is read before the other members whatever its place, so these are set aside first.
-/

/-- One callback for a submitted request. -/
inductive Event where
  /-- An installed version must be replaced; `action` is what was answered. -/
  | replacementNeeded (request : Request) (existing replacement : Bundle)
      (action : ReplacementAction)
  /-- The user must approve the extension. -/
  | approvalNeeded (request : Request)
  /-- The request completed. -/
  | finished (request : Request) (result : Completion)
  /-- The request failed. -/
  | failed (request : Request) (failure : Failure)
deriving DecidableEq

/-- The four callbacks. -/
inductive EventTag where
  | replacementNeeded
  | approvalNeeded
  | finished
  | failed
deriving DecidableEq, Repr

namespace EventTag

/-- The tag in written events. -/
def written : EventTag → String
  | .replacementNeeded => "replacement_needed"
  | .approvalNeeded => "approval_needed"
  | .finished => "finished"
  | .failed => "failed"

/-- The title of the events with this tag. -/
def title : EventTag → String
  | .replacementNeeded => "ReplacementNeeded"
  | .approvalNeeded => "ApprovalNeeded"
  | .finished => "Finished"
  | .failed => "Failed"

/-- The tags in the order in which they are listed. -/
def all : List EventTag := [.replacementNeeded, .approvalNeeded, .finished, .failed]

/-- Reads a tag. -/
def decode (source : Source) : Document → Decoded EventTag
  | .string s =>
    match all.find? (·.written = s) with
    | some tag => .ok tag
    | none => .error (.unknownVariant s (all.map written))
  | d => Decode.mistyped source d "variant identifier"

/-- The members of a written event besides its tag. -/
def shape (tag : EventTag) : Shape where
  title := "struct variant ExtensionEvent::" ++ tag.title
  members :=
    ⟨"request", false, Decode.checked (Request.decode .buffer)⟩ ::
      match tag with
      | .replacementNeeded =>
        [⟨"existing", false, Decode.checked (Bundle.decode .buffer)⟩,
         ⟨"replacement", false, Decode.checked (Bundle.decode .buffer)⟩,
         ⟨"action", false, Decode.checked (ReplacementAction.decode .buffer)⟩]
      | .approvalNeeded => []
      | .finished => [⟨"result", false, Decode.checked (Completion.decode .buffer)⟩]
      | .failed => [⟨"failure", false, Decode.checked (Failure.decode .buffer)⟩]

end EventTag

namespace Event

/-- Which callback the event stands for. -/
def tag : Event → EventTag
  | .replacementNeeded .. => .replacementNeeded
  | .approvalNeeded _ => .approvalNeeded
  | .finished .. => .finished
  | .failed .. => .failed

/-- The request that the event belongs to. -/
def request : Event → Request
  | .replacementNeeded r .. => r
  | .approvalNeeded r => r
  | .finished r _ => r
  | .failed r _ => r

/-- Whether the system is done with the request after this event. -/
def isTerminal : Event → Bool
  | .finished .. | .failed .. => true
  | _ => false

/-- The short name of the callback. -/
def name : Event → String
  | .replacementNeeded .. => "replacement-needed"
  | .approvalNeeded _ => "approval-needed"
  | .finished .. => "finished"
  | .failed .. => "failed"

/-- The members of a written event after its tag. -/
def payload : Event → List (String × Document)
  | .replacementNeeded r existing replacement action =>
    [("request", r.encode), ("existing", existing.encode), ("replacement", replacement.encode),
     ("action", action.encode)]
  | .approvalNeeded r => [("request", r.encode)]
  | .finished r result => [("request", r.encode), ("result", result.encode)]
  | .failed r failure => [("request", r.encode), ("failure", failure.encode)]

/-- Events are written as objects, the tag first. -/
def encode (e : Event) : Document :=
  .object (("type", .string e.tag.written) :: e.payload)

/-- Finds the tag among the members and sets the others aside. -/
def splitTag (source : Source) :
    List (String × Document) → Option EventTag → Decoded (EventTag × List (String × Document))
  | [], none => .error (.missingField "type")
  | [], some tag => .ok (tag, [])
  | (name, d) :: rest, tag =>
    match d with
    | .badKey _ _ => .error .malformed
    | _ =>
      if name = "type" then
        if tag.isSome then .error (.duplicateField "type")
        else do splitTag source rest (some (← EventTag.decode source d))
      else do
        Decode.setAside source 1 d
        let (tag, others) ← splitTag source rest tag
        return (tag, (name, d) :: others)

/-- Reads the members that an event of the given tag has. -/
def decodePayload (tag : EventTag) (d : Document) : Decoded Event := do
  let found ← tag.shape.read .buffer d
  let request ← found.get "request" (Request.decode .buffer)
  match tag with
  | .replacementNeeded =>
    let existing ← found.get "existing" (Bundle.decode .buffer)
    let replacement ← found.get "replacement" (Bundle.decode .buffer)
    let action ← found.get "action" (ReplacementAction.decode .buffer)
    return .replacementNeeded request existing replacement action
  | .approvalNeeded => return .approvalNeeded request
  | .finished => return .finished request (← found.get "result" (Completion.decode .buffer))
  | .failed => return .failed request (← found.get "failure" (Failure.decode .buffer))

/-- Reads an event. -/
def decode (source : Source) (d : Document) : Decoded Event := do
  match d with
  | .object members =>
    let (tag, others) ← splitTag source members none
    decodePayload tag (.object others)
  | .array [] => throw (.missingField "type")
  | .array (first :: others) =>
    let tag ← EventTag.decode source first
    Decode.setAside source 0 (.array others)
    decodePayload tag (.array others)
  | d => Decode.mistyped source d "internally tagged enum ExtensionEvent"

end Event
end DriverExtension
