import DriverExtension.Bridge.Channel

namespace DriverExtension

open Log

/-!
# The event bridge

A bridge is a channel together with its sinks, which can be cloned and dropped like the streams.
`Bridge.step` performs one operation, `Bridge.run` a list of them.
-/

/-- A channel and the slots of its sinks. -/
structure Bridge where
  channel : Channel
  sinks : List Bool
deriving DecidableEq

/-- An operation on a sink. -/
inductive SinkStep where
  | send (e : Event)
  | isClosed
  | clone
  | drop
deriving DecidableEq

/-- An operation on a bridge, on the sink or stream of a slot. -/
inductive BridgeStep where
  | sink (slot : Nat) (step : SinkStep)
  | stream (slot : Nat) (step : StreamStep)
deriving DecidableEq

namespace Bridge

/-- A new bridge has one sink and one stream. -/
def new : Bridge := ⟨.new, [true]⟩

/-- Whether the slot holds a sink. -/
def hasSink (b : Bridge) (slot : Nat) : Bool := b.sinks[slot]? = some true

/-- Whether some sink is left. -/
def hasSinks (b : Bridge) : Bool := b.sinks.any id

/-- One operation on the sink of a slot. -/
def sinkStep (slot : Nat) (step : SinkStep) (b : Bridge) : Reply × Bridge :=
  if !b.hasSink slot then (.noSink slot, b)
  else
    match step with
    | .send e =>
      match b.channel.send e with
      | .ok channel => (.sent, { b with channel })
      | .error f => (.fault f, b)
    | .isClosed => (.flag (!b.channel.isOpen), b)
    | .clone => (.number b.sinks.length, { b with sinks := b.sinks ++ [true] })
    | .drop => (.done, { b with sinks := b.sinks.set slot false })

/-- One operation. -/
def step (b : Bridge) : BridgeStep → Reply × Bridge × List Record
  | .sink slot s =>
    let (reply, b) := b.sinkStep slot s
    (reply, b, [])
  | .stream slot s =>
    let (reply, channel, records) := b.channel.stream b.hasSinks slot s
    (reply, { b with channel }, records)

/-- The bridge after a list of operations. -/
def run (b : Bridge) (steps : List BridgeStep) : Bridge :=
  steps.foldl (fun b s => (b.step s).2.1) b

end Bridge
end DriverExtension
