import DriverExtension.Bridge.Channel
import DriverExtension.Proofs.Bridge.Wait

namespace DriverExtension

open Log

/-!
# Operations on the streams of a channel

What one operation does to the queue and to the streams, for every slot and every operation:

* `Channel.received` — the events that an operation takes through its stream;
* `Channel.received_append_queue` — these and the queue that is left make up the queue that was;
* `Channel.events_suffix_received` — whatever an operation answers, it has received last;
* `Channel.isOpen_iff`, `Channel.isOpen_of_stream` — a channel is open as long as there is a stream,
  and no operation on a stream opens it again.
-/

/-- The events that an answer hands over. -/
def Reply.events : Reply → List Event
  | .received (.event e) => [e]
  | .drained es => es
  | _ => []

namespace Channel

/-- The events that an operation on a stream receives: those that it answers, and for a wait all
    that the loop takes from the queue, also those of other requests. -/
def received (sinks : Bool) (slot : Nat) (step : StreamStep) (c : Channel) : List Event :=
  match step with
  | .wait id => if c.hasStream slot then Wait.taken id c.queue else []
  | step => (c.stream sinks slot step).1.events

/-! ### Streams and their slots -/

/-- Some slot is taken exactly if there is the number of one that is. -/
theorem any_id_iff (slots : List Bool) :
    slots.any id = true ↔ ∃ slot : Nat, decide (slots[slot]? = some true) = true := by
  rw [List.any_eq_true]
  constructor
  · rintro ⟨taken, hmem, htaken⟩
    obtain ⟨slot, hslot⟩ := List.mem_iff_getElem?.mp hmem
    refine ⟨slot, decide_eq_true ?_⟩
    rw [hslot]
    exact congrArg some htaken
  · rintro ⟨slot, hslot⟩
    exact ⟨true, List.mem_of_getElem? (of_decide_eq_true hslot), rfl⟩

/-- A channel is open exactly as long as some slot holds a stream. -/
theorem isOpen_iff (c : Channel) : c.isOpen = true ↔ ∃ slot, c.hasStream slot = true :=
  any_id_iff c.streams

/-- Where there is no stream, an operation does nothing. -/
theorem stream_of_not_hasStream (sinks : Bool) (slot : Nat) (step : StreamStep) (c : Channel)
    (h : c.hasStream slot = false) : c.stream sinks slot step = (.noStream slot, c, []) := by
  unfold stream
  rw [h]
  rfl

/-- No operation on a stream opens a channel. -/
theorem isOpen_of_stream (sinks : Bool) (slot : Nat) (step : StreamStep) (c : Channel)
    (h : (c.stream sinks slot step).2.1.isOpen = true) : c.isOpen = true := by
  cases hs : c.hasStream slot with
  | false => rwa [stream_of_not_hasStream sinks slot step c hs] at h
  | true => exact (isOpen_iff c).mpr ⟨slot, hs⟩

/-! ### What is received -/

/-- Where there is no stream, nothing is received. -/
theorem received_of_not_hasStream (sinks : Bool) (slot : Nat) (step : StreamStep) (c : Channel)
    (h : c.hasStream slot = false) : c.received sinks slot step = [] := by
  have hstep := stream_of_not_hasStream sinks slot step c h
  unfold received
  split
  · rw [h, if_neg Bool.false_ne_true]
  · rw [hstep]
    rfl

/-- **Balance of an operation.**  What an operation receives stood at the front of the queue, and
    everything behind it stays. -/
theorem received_append_queue (sinks : Bool) (slot : Nat) (step : StreamStep) (c : Channel) :
    c.received sinks slot step ++ (c.stream sinks slot step).2.1.queue = c.queue := by
  cases hs : c.hasStream slot with
  | false =>
    rw [received_of_not_hasStream sinks slot step c hs,
      stream_of_not_hasStream sinks slot step c hs]
    rfl
  | true =>
    unfold received stream
    rw [hs]
    -- a wait alone may take more than it answers
    obtain ⟨queue, streams⟩ := c
    cases step with
    | wait id => exact Wait.taken_append_left sinks id queue
    | tryReceive => cases queue <;> rfl
    | receive => cases queue <;> cases sinks <;> rfl
    | drain => exact List.append_nil queue
    | clone => rfl
    | drop => rfl
    | length => rfl
    | isEmpty => rfl

/-- Whatever an operation answers is the last that it received. -/
theorem events_suffix_received (sinks : Bool) (slot : Nat) (step : StreamStep) (c : Channel) :
    (c.stream sinks slot step).1.events <:+ c.received sinks slot step := by
  cases step with
  | wait id =>
    cases hs : c.hasStream slot with
    | false =>
      rw [stream_of_not_hasStream sinks slot (.wait id) c hs]
      exact List.nil_suffix
    | true =>
      unfold received stream
      rw [hs]
      show (Reply.received (Wait.poll sinks id c.queue).1).events <:+ Wait.taken id c.queue
      cases hr : (Wait.poll sinks id c.queue).1 with
      | event e => exact (Wait.poll_eq_event sinks id c.queue e hr).2
      | pending => exact List.nil_suffix
      | closed => exact List.nil_suffix
  | _ => exact List.suffix_rfl

/-- A wait logs what it received. -/
theorem wait_records (sinks : Bool) (slot : Nat) (id : RequestId) (c : Channel) :
    (c.stream sinks slot (.wait id)).2.2
      = (c.received sinks slot (.wait id)).flatMap (Wait.records id) := by
  cases hs : c.hasStream slot with
  | false =>
    rw [received_of_not_hasStream sinks slot _ c hs, stream_of_not_hasStream sinks slot _ c hs]
    rfl
  | true =>
    unfold received stream
    rw [hs]
    exact Wait.poll_records sinks id c.queue

/-- A receive answers the first event of the queue; where there is none, it waits as long as there
    are sinks and fails otherwise. -/
theorem stream_receive (sinks : Bool) (slot : Nat) (c : Channel) (hs : c.hasStream slot = true) :
    c.stream sinks slot .receive
      = (.received (match c.queue.head? with
          | some e => .event e
          | none => if sinks then .pending else .closed),
        { c with queue := c.queue.tail }, []) := by
  unfold stream
  rw [hs]
  obtain ⟨queue, streams⟩ := c
  cases queue <;> rfl

end Channel
end DriverExtension
