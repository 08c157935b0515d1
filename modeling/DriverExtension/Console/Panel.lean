import DriverExtension.Console.Key
import DriverExtension.Event
import DriverExtension.Fault

namespace DriverExtension

/-!
# The panel

The panel is what the console shows and remembers: two buttons, one of them selected, a help dialog,
and the latest outcomes.  It never talks to the system: pressing a button only marks a request as
pending.

* `Panel.act`, `Panel.press` — what keys do;
* `Panel.recordSubmission`, `Panel.recordEvent` — one outcome row each;
* `Panel.push` — at most `maxOutcomes` rows are kept, the latest ones.
-/

/-- The two buttons. -/
inductive Button where
  | install
  | uninstall
deriving DecidableEq, Repr

namespace Button

/-- The text on a button. -/
def label : Button → String
  | .install => "Install Dext"
  | .uninstall => "Uninstall Dext"

/-- The request that a button stands for. -/
def kind : Button → RequestKind
  | .install => .activate
  | .uninstall => .deactivate

/-- The other button. -/
def other : Button → Button
  | .install => .uninstall
  | .uninstall => .install

end Button

/-- How an outcome row is coloured. -/
inductive Severity where
  | info
  | warning
  | error
  | success
deriving DecidableEq, Repr

/-- One row of the outcome log. -/
structure Outcome where
  /-- Milliseconds since the start. -/
  time : Nat
  severity : Severity
  text : String
deriving DecidableEq, Repr

/-- The severity of the row of an event. -/
def Event.severity : Event → Severity
  | .replacementNeeded .. | .approvalNeeded _ => .warning
  | .finished .. => .success
  | .failed .. => .error

/-- The text of the row of an event. -/
def Event.outcomeText : Event → String
  | .replacementNeeded r existing replacement action =>
    s!"{r.id}: replacement needed, {existing.shortVersion} -> {replacement.shortVersion}; answered {action}"
  | .approvalNeeded r => s!"{r.id}: approval needed in System Settings > Privacy & Security"
  | .finished r result => s!"{r.id}: {r.kind} finished: {result}"
  | .failed r failure => s!"{r.id}: {r.kind} failed: {failure.description}"

/-- The state of the console. -/
structure Panel where
  identifier : Identifier
  /-- The name of the manager. -/
  backend : String
  policy : ReplacementPolicy
  selected : Button
  /-- Whether the help dialog is open. -/
  help : Bool
  quit : Bool
  /-- The request that is to be submitted next. -/
  pending : Option RequestKind
  /-- The rows of the outcome log, oldest first. -/
  outcomes : List Outcome
deriving DecidableEq

namespace Panel

/-- At most this many rows are kept. -/
def maxOutcomes : Nat := 200

/-- The panel at the start. -/
def new (identifier : Identifier) (backend : String) (policy : ReplacementPolicy) : Panel where
  identifier := identifier
  backend := backend
  policy := policy
  selected := .install
  help := false
  quit := false
  pending := none
  outcomes := []

/-- Selects a button and marks its request as pending. -/
def press (p : Panel) (b : Button) : Panel := { p with selected := b, pending := some b.kind }

/-- Performs an action.  While the help dialog is open, quitting closes it and buttons are dead. -/
def act (p : Panel) : Action → Panel
  | .quit => if p.help then { p with help := false } else { p with quit := true }
  | .closeDialog => { p with help := false }
  | .previous | .next => if p.help then p else { p with selected := p.selected.other }
  | .press => if p.help then p else p.press p.selected
  | .install => if p.help then p else p.press .install
  | .uninstall => if p.help then p else p.press .uninstall
  | .clearLog => { p with outcomes := [] }
  | .showHelp => { p with help := true }
  | .none => p

/-- The pending request, which is then no longer pending. -/
def takePending (p : Panel) : Option RequestKind × Panel := (p.pending, { p with pending := none })

/-- Adds a row; the oldest one goes when there are too many. -/
def push (p : Panel) (o : Outcome) : Panel :=
  let kept := if p.outcomes.length = maxOutcomes then p.outcomes.drop 1 else p.outcomes
  { p with outcomes := kept ++ [o] }

/-- The row of a submission. -/
def submissionOutcome (time : Nat) (kind : RequestKind) : Except Fault Request → Outcome
  | .ok r => ⟨time, .info, s!"{r.id}: submitted {r.kind} request"⟩
  | .error f => ⟨time, .error, s!"Could not submit {kind} request: {f.message}"⟩

/-- The row of an event. -/
def eventOutcome (time : Nat) (e : Event) : Outcome := ⟨time, e.severity, e.outcomeText⟩

/-- Records the result of a submission. -/
def recordSubmission (p : Panel) (time : Nat) (kind : RequestKind) (result : Except Fault Request) :
    Panel :=
  p.push (submissionOutcome time kind result)

/-- Records an event. -/
def recordEvent (p : Panel) (time : Nat) (e : Event) : Panel := p.push (eventOutcome time e)

end Panel
end DriverExtension
