import DriverExtension.Event
import DriverExtension.Log.Level

namespace DriverExtension

open Log

/-!
# The record of an event

Each event is logged as exactly one record.  It begins with the id of the request; only a failure is
logged as an error.
-/

/-- The target of records about requests and their events. -/
def lifecycleTarget : String := "common::controller"

/-- The message of the record of an event. -/
def Event.logMessage : Event → String
  | .replacementNeeded r existing replacement .replace =>
    s!"{r.id}: replacing installed extension {existing} with {replacement} (replacement policy: replace)"
  | .replacementNeeded r existing replacement .cancel =>
    s!"{r.id}: keeping installed extension {existing}, not replacing with {replacement}"
  | .approvalNeeded r =>
    s!"{r.id}: {r.identifier} needs user approval in System Settings > Privacy & Security"
  | .finished r result =>
    s!"{r.id}: {r.kind} request finished: {result} (result code {result.raw.toInt})"
  | .failed r failure => s!"{r.id}: {r.kind} request failed: {failure} [{failure.kind}]"

/-- The level of the record of an event. -/
def Event.logLevel : Event → Level
  | .replacementNeeded _ _ _ .replace => .warn
  | .failed .. => .error
  | _ => .info

/-- The record of an event. -/
def Event.record (e : Event) : Record := ⟨e.logLevel, lifecycleTarget, e.logMessage⟩

end DriverExtension
