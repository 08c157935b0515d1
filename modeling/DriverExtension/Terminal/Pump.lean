import DriverExtension.Terminal.Event

namespace DriverExtension.Terminal

/-!
# Forwarding terminal events

The pump waits for the terminal and forwards what the console is to know: keys that go down, new
sizes, and a tick whenever enough time has passed.  One pass of its loop waits at most until the
next tick is due.  The loop ends when the terminal cannot be read, or when a signal is sent that
nobody listens to any more.

* `Signal.ofEvent?` — what becomes of a terminal event;
* `Pump.timeout` — how long a pass may wait;
* `Pump.pass`, `Pump.run` — what is forwarded.
-/

/-- What the console is told. -/
inductive Signal where
  | key (k : Key)
  | resize (width height : Nat)
  | tick
deriving DecidableEq, Repr

/-- The signal of a terminal event.  Of keys only those that go down count. -/
def Signal.ofEvent? : TerminalEvent → Option Signal
  | .key k => if k.kind = .press then some (.key k) else none
  | .resize width height => some (.resize width height)
  | .other => none

/-- What a wait for the terminal brings. -/
inductive Awaited where
  /-- Nothing came in time, or the wait failed. -/
  | nothing
  | event (e : TerminalEvent)
  /-- Something came that could not be read. -/
  | failure
deriving DecidableEq, Repr

/-- One pass of the loop: what came from the terminal, what the clock showed, and who listened. -/
structure Pass where
  /-- The clock before the wait. -/
  begun : Nat
  awaited : Awaited
  /-- Whether anybody listens when what was read is sent. -/
  heard : Bool
  /-- The clock after the wait. -/
  checked : Nat
  /-- Whether anybody listens when a tick is sent. -/
  tickHeard : Bool
  /-- The clock after a tick. -/
  restarted : Nat
deriving DecidableEq, Repr

/-- What one pass does. -/
structure Turn where
  /-- How long it waits at most. -/
  wait : Nat
  /-- What it sends. -/
  signals : List Signal
deriving DecidableEq, Repr

namespace Pump

/-- How long a pass may wait that begins at a time; `last` is when the time to the next tick began
to run. -/
def timeout (rate last begun : Nat) : Nat := rate - (begun - last)

/-- What is sent of what was read; nothing if the loop ends here. -/
def forwarded? (p : Pass) : Option (List Signal) :=
  match p.awaited with
  | .nothing => some []
  | .event e =>
    match Signal.ofEvent? e with
    | some s => if p.heard then some [s] else none
    | none => some []
  | .failure => none

/-- Whether a tick is due after the wait. -/
def isDue (rate last : Nat) (p : Pass) : Bool := rate ≤ p.checked - last

/-- What one pass sends, and when the time to the next tick begins to run, unless the loop ends. -/
def pass (rate last : Nat) (p : Pass) : List Signal × Option Nat :=
  match forwarded? p with
  | none => ([], none)
  | some signals =>
    if isDue rate last p then
      if p.tickHeard then (signals ++ [.tick], some p.restarted) else (signals, none)
    else (signals, some last)

/-- What a list of passes does, pass by pass, until the loop ends. -/
def run (rate : Nat) : Nat → List Pass → List Turn
  | _, [] => []
  | last, p :: rest =>
    let (signals, next) := pass rate last p
    ⟨timeout rate last p.begun, signals⟩ ::
      match next with
      | some last => run rate last rest
      | none => []

end Pump
end DriverExtension.Terminal
