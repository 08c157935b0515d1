import DriverExtension.Console.Panel
import DriverExtension.Lifecycle.Controller
import DriverExtension.Terminal.Pump

namespace DriverExtension

open Log Terminal

/-!
# The loop of the console

Signals of the terminal and events of the requests wait in two queues, and the console acts in
turns.  A turn draws the screen.  Then it submits the request that is pending, if there is one; else
it takes the next thing from one of the queues.  A key only marks its request as pending, so the
request is submitted by the turn after.  Quitting stops the console; what comes after that is not
looked at.

* `Console.turn` — one turn of the loop;
* `Console.step` — a turn, or what happens to the console between turns;
* `Console.run` — a list of steps;
* `Effect.records` — what is logged.
-/

/-- Which queue a turn takes from. -/
inductive Pick where
  | terminal
  | stream
deriving DecidableEq, Repr

/-- What happens to a console. -/
inductive ConsoleStep where
  /-- The terminal sends a signal. -/
  | signal (s : Signal)
  /-- The terminal will send nothing more. -/
  | hangUp
  /-- The system calls back on a delegate that the manager recorded. -/
  | callback (n : Nat) (callback : Callback)
  /-- The manager has changed its state: from now on it answers as this one. -/
  | manager (m : Manager)
  /-- One turn of the loop. -/
  | turn (pick : Pick)
  /-- A turn of the loop whose screen cannot be drawn. -/
  | drawFailure (cause : String)
deriving DecidableEq

/-- What a console does. -/
inductive Effect where
  /-- It submitted a request; the records are those of the submission itself. -/
  | submission (kind : RequestKind) (result : Except Fault Request) (records : List Record)
  /-- It acted on a signal. -/
  | signal (s : Signal)
  /-- It showed an event. -/
  | arrival (e : Event)
  /-- There will be no more events. -/
  | disconnection
  /-- The screen could not be drawn. -/
  | blackout (cause : String)
  /-- A callback was made, with these records. -/
  | callback (records : List Record)

namespace Effect

/-- The target of records about the console. -/
def target : String := "dext_installer::tui"

/-- The record of a request that was not accepted. -/
def refused (kind : RequestKind) (f : Fault) : Record :=
  ⟨.warn, target, s!"Failed to submit {kind} request: {f.message}"⟩

/-- What is logged. -/
def records : Effect → List Record
  | .submission kind (.error f) records => records ++ [refused kind f]
  | .submission _ (.ok _) records => records
  | .signal _ => []
  | .arrival e => [e.record]
  | .disconnection => [⟨.warn, target, s!"Extension event error: {Fault.receiveClosed.message}"⟩]
  | .blackout cause => [⟨.error, target, s!"Failed to draw UI: {cause}"⟩]
  | .callback records => records

/-- The requests that were submitted. -/
def submittedKind? : Effect → Option RequestKind
  | .submission kind _ _ => some kind
  | _ => none

/-- The events that were shown. -/
def event? : Effect → Option Event
  | .arrival e => some e
  | _ => none

/-- The signals that were acted on. -/
def signal? : Effect → Option Signal
  | .signal s => some s
  | _ => none

end Effect

/-- A console: what it shows, the signals that it has yet to act on, and the controller, manager and
channel behind it. -/
structure Console where
  panel : Panel
  signals : List Signal
  /-- Whether the terminal may send more signals. -/
  attached : Bool
  controller : Controller
  manager : Manager
  channel : Channel
  /-- Whether some sink is left, which holds as long as the controller does. -/
  hasSinks : Bool
  stopped : Bool
deriving DecidableEq

namespace Console

/-- A console at its start. -/
def new (identifier : Identifier) (policy : ReplacementPolicy) (manager : Manager) : Console where
  panel := .new identifier manager.name policy
  signals := []
  attached := true
  controller := .new identifier policy
  manager := manager
  channel := .new
  hasSinks := true
  stopped := false

/-- A console whose channel was closed before the start. -/
def disconnected (c : Console) : Console := { c with hasSinks := false }

/-- Submits a request and shows the result. -/
def submit (time : Nat) (kind : RequestKind) (c : Console) : Console × List Effect :=
  let (result, controller, manager, channel, records) :=
    c.controller.submit kind c.manager c.channel
  ({ c with panel := c.panel.recordSubmission time kind result, controller, manager, channel },
    [.submission kind result records])

/-- Acts on a signal; the screen follows the size of the terminal by itself. -/
def act (s : Signal) (c : Console) : Console :=
  match s with
  | .key k => { c with panel := c.panel.act k.action }
  | .resize _ _ | .tick => c

/-- Takes the next signal. -/
def takeSignal (c : Console) : Console × List Effect :=
  match c.signals with
  | s :: rest => (act s { c with signals := rest }, [.signal s])
  | [] => if c.attached then (c, []) else ({ c with stopped := true }, [])

/-- Takes the next event. -/
def receive (time : Nat) (c : Console) : Console × List Effect :=
  match c.channel.queue with
  | e :: rest =>
    ({ c with panel := c.panel.recordEvent time e, channel := { c.channel with queue := rest } },
      [.arrival e])
  | [] => if c.hasSinks then (c, []) else ({ c with stopped := true }, [.disconnection])

/-- Stops the console if the user has quit. -/
def checkQuit (c : Console) : Console := if c.panel.quit then { c with stopped := true } else c

/-- Takes the next thing from one of the queues; where there is nothing, the turn does nothing. -/
def take (time : Nat) (pick : Pick) (c : Console) : Console × List Effect :=
  match pick with
  | .terminal => c.takeSignal
  | .stream => c.receive time

/-- One turn of the loop.  A pending request goes before everything else. -/
def turn (time : Nat) (pick : Pick) (c : Console) : Console × List Effect :=
  match c.panel.takePending with
  | (some kind, panel) => submit time kind { c with panel }
  | (none, _) =>
    let (c, effects) := c.take time pick
    (c.checkQuit, effects)

/-- Performs a callback on a recorded delegate. -/
def callback (n : Nat) (callback : Callback) (c : Console) : Console × List Effect :=
  match c.manager.submitted[n]? with
  | none => (c, [])
  | some d =>
    let (_, channel, records) := d.call callback c.channel
    ({ c with channel }, [.callback records])

/-- One thing that happens to the console at a time. -/
def step (c : Console) (time : Nat) (s : ConsoleStep) : Console × List Effect :=
  if c.stopped then (c, [])
  else
    match s with
    | .signal s => ({ c with signals := c.signals ++ [s] }, [])
    | .hangUp => ({ c with attached := false }, [])
    | .callback n callback => c.callback n callback
    | .manager m => ({ c with manager := m }, [])
    | .turn pick => c.turn time pick
    | .drawFailure cause => ({ c with stopped := true }, [.blackout cause])

/-- What happens to the console, each with its time. -/
def run (c : Console) : List (Nat × ConsoleStep) → Console × List Effect
  | [] => (c, [])
  | (time, s) :: rest =>
    let (c, first) := c.step time s
    let (c, others) := c.run rest
    (c, first ++ others)

/-- A signal arrives, is acted on, and the request that it asks for is submitted. -/
def attend (time : Nat) (s : Signal) : List (Nat × ConsoleStep) :=
  [(time, .signal s), (time, .turn .terminal), (time, .turn .terminal)]

/-- Takes all events that are there. -/
def settle (c : Console) (time : Nat) : Console × List Effect :=
  c.run (List.replicate (c.channel.queue.length + 1) (time, .turn .stream))

end Console
end DriverExtension
