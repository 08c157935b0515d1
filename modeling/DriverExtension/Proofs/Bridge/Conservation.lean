import DriverExtension.Bridge.Basic
import DriverExtension.Proofs.Bridge.Channel
import DriverExtension.Proofs.Trace

namespace DriverExtension

open Log

/-!
# Conservation on the event bridge

Any number of sinks and streams share one queue, in any order of operations.

* `Bridge.accepted`, `Bridge.received` — what a list of operations sends with success and what it
  takes through the streams, both in order;
* `Bridge.received_append_queue` — these two and the queue are in balance at every moment;
* `Bridge.run_not_isOpen`, `Bridge.run_not_hasSinks` — the last stream and the last sink are gone
  for good;
* `Bridge.replies_receive` — receiving over and over gives the queue in order, and then no more;
* `Bridge.run_conserves` — the account of a whole run from a new bridge.
-/

namespace Bridge

/-! ### Observations of a run -/

/-- The bridge after an operation. -/
def next (b : Bridge) (a : BridgeStep) : Bridge := (b.step a).2.1

/-- The event that an operation sends, if it is accepted. -/
def acceptedBy (b : Bridge) : BridgeStep → List Event
  | .sink slot (.send e) => if (b.step (.sink slot (.send e))).1 = .sent then [e] else []
  | _ => []

/-- The events that an operation takes through a stream. -/
def receivedBy (b : Bridge) : BridgeStep → List Event
  | .stream slot step => b.channel.received b.hasSinks slot step
  | .sink _ _ => []

/-- The accepted sends of a run, in the order in which they were made. -/
def accepted (b : Bridge) (steps : List BridgeStep) : List Event :=
  Trace.collect next acceptedBy b steps

/-- The events that a run received through all streams, in the order in which they were received. -/
def received (b : Bridge) (steps : List BridgeStep) : List Event :=
  Trace.collect next receivedBy b steps

/-- The answers to the operations of a run. -/
def replies (b : Bridge) (steps : List BridgeStep) : List Reply :=
  Trace.collect next (fun b a => [(b.step a).1]) b steps

/-- A run in two parts is the second part after the first. -/
theorem run_append (b : Bridge) (pre post : List BridgeStep) :
    b.run (pre ++ post) = (b.run pre).run post :=
  List.foldl_append

/-- A run in two parts answers the first part and then the second. -/
theorem replies_append (b : Bridge) (pre post : List BridgeStep) :
    b.replies (pre ++ post) = b.replies pre ++ (b.run pre).replies post :=
  Trace.collect_append next _ b pre post

/-! ### One operation -/

/-- Some sink is left exactly as long as some slot holds one. -/
theorem hasSinks_iff (b : Bridge) : b.hasSinks = true ↔ ∃ slot, b.hasSink slot = true :=
  Channel.any_id_iff b.sinks

/-- An operation on a sink logs nothing. -/
theorem step_sink (b : Bridge) (slot : Nat) (a : SinkStep) :
    b.step (.sink slot a) = ((b.sinkStep slot a).1, (b.sinkStep slot a).2, []) := rfl

/-- An operation on a stream changes the channel only. -/
theorem step_stream (b : Bridge) (slot : Nat) (a : StreamStep) :
    b.step (.stream slot a)
      = ((b.channel.stream b.hasSinks slot a).1,
        { b with channel := (b.channel.stream b.hasSinks slot a).2.1 },
        (b.channel.stream b.hasSinks slot a).2.2) := rfl

/-- Where there is no sink, an operation does nothing. -/
theorem step_sink_of_not_hasSink (b : Bridge) (slot : Nat) (a : SinkStep)
    (h : b.hasSink slot = false) : b.step (.sink slot a) = (.noSink slot, b, []) := by
  rw [step_sink]
  unfold sinkStep
  rw [h]
  rfl

/-- A send puts its event at the end of the queue as long as there is a stream; otherwise it is
    refused and changes nothing. -/
theorem step_send (b : Bridge) (slot : Nat) (e : Event) (h : b.hasSink slot = true) :
    b.step (.sink slot (.send e))
      = if b.channel.isOpen then
          (.sent, { b with channel := { b.channel with queue := b.channel.queue ++ [e] } }, [])
        else (.fault .sendClosed, b, []) := by
  rw [step_sink, sinkStep, Channel.send, h]
  cases b.channel.isOpen <;> rfl

/-- A sink sends with success exactly as long as there is a stream. -/
theorem step_send_eq_sent_iff (b : Bridge) (slot : Nat) (e : Event) (h : b.hasSink slot = true) :
    (b.step (.sink slot (.send e))).1 = .sent ↔ ∃ stream, b.channel.hasStream stream = true := by
  rw [step_send b slot e h, ← Channel.isOpen_iff]
  cases b.channel.isOpen <;> simp

/-- A refused send says so and changes nothing. -/
theorem step_send_of_ne_sent (b : Bridge) (slot : Nat) (e : Event) (h : b.hasSink slot = true)
    (hrefused : (b.step (.sink slot (.send e))).1 ≠ .sent) :
    b.step (.sink slot (.send e)) = (.fault .sendClosed, b, []) := by
  rw [step_send b slot e h] at hrefused ⊢
  cases hopen : b.channel.isOpen with
  | true => rw [hopen] at hrefused; exact absurd rfl hrefused
  | false => rfl

/-- Without a stream no send succeeds, be there a sink or not. -/
theorem step_send_ne_sent (b : Bridge) (slot : Nat) (e : Event)
    (h : b.channel.isOpen = false) : (b.step (.sink slot (.send e))).1 ≠ .sent := by
  cases hs : b.hasSink slot with
  | false =>
    rw [step_sink_of_not_hasSink b slot _ hs]
    exact Reply.noConfusion
  | true =>
    rw [step_send b slot e hs, h]
    exact Reply.noConfusion

/-- Every stream sees the length of the queue. -/
theorem step_length (b : Bridge) (slot : Nat) (h : b.channel.hasStream slot = true) :
    b.step (.stream slot .length) = (.number b.channel.queue.length, b, []) := by
  rw [step_stream]
  unfold Channel.stream
  rw [h]
  rfl

/-- **Balance of an operation.** -/
theorem receivedBy_append_queue (b : Bridge) (a : BridgeStep) :
    b.receivedBy a ++ (b.next a).channel.queue = b.channel.queue ++ b.acceptedBy a := by
  cases a with
  | stream slot step =>
    rw [acceptedBy, List.append_nil]
    · exact Channel.received_append_queue b.hasSinks slot step b.channel
    · intro _ _ h
      cases h
  | sink slot step =>
    rw [receivedBy, List.nil_append]
    cases hs : b.hasSink slot with
    | false =>
      rw [next, step_sink_of_not_hasSink b slot step hs]
      cases step with
      | send e => rw [acceptedBy, step_sink_of_not_hasSink b slot _ hs]; simp
      | _ => exact (List.append_nil _).symm
    | true =>
      cases step with
      | send e =>
        rw [acceptedBy, next, step_send b slot e hs]
        cases b.channel.isOpen <;> simp
      | _ =>
        rw [next, step_sink, sinkStep, hs]
        exact (List.append_nil _).symm

/-- No operation opens the channel. -/
theorem isOpen_of_next (b : Bridge) (a : BridgeStep) (h : (b.next a).channel.isOpen = true) :
    b.channel.isOpen = true := by
  cases a with
  | stream slot step => exact Channel.isOpen_of_stream b.hasSinks slot step b.channel h
  | sink slot step =>
    cases hs : b.hasSink slot with
    | false => rwa [next, step_sink_of_not_hasSink b slot step hs] at h
    | true =>
      cases step with
      | send e =>
        cases hopen : b.channel.isOpen with
        | true => rfl
        | false =>
          rw [next, step_send b slot e hs, hopen] at h
          exact absurd (hopen.symm.trans h) Bool.false_ne_true
      | _ =>
        rw [next, step_sink, sinkStep, hs] at h
        exact h

/-- No operation brings a sink back after the last one is gone. -/
theorem hasSinks_of_next (b : Bridge) (a : BridgeStep) (h : (b.next a).hasSinks = true) :
    b.hasSinks = true := by
  cases a with
  | stream slot step => exact h
  | sink slot step =>
    cases hs : b.hasSink slot with
    | false => rwa [next, step_sink_of_not_hasSink b slot step hs] at h
    -- a clone needs a sink to be cloned
    | true => exact (hasSinks_iff b).mpr ⟨slot, hs⟩

/-- Without sinks nothing is sent. -/
theorem acceptedBy_of_not_hasSinks (b : Bridge) (a : BridgeStep) (h : b.hasSinks = false) :
    b.acceptedBy a = [] := by
  cases a with
  | stream slot step => rfl
  | sink slot step =>
    cases step with
    | send e =>
      cases hs : b.hasSink slot with
      | true => exact absurd ((hasSinks_iff b).mpr ⟨slot, hs⟩) (Bool.eq_false_iff.mp h)
      | false => rw [acceptedBy, step_sink_of_not_hasSink b slot _ hs]; rfl
    | _ => rfl

/-! ### Runs -/

/-- **Balance of a run.**  What a run received and what is queued after it are what was queued
    before it and what it sent with success. -/
theorem received_append_queue (b : Bridge) (steps : List BridgeStep) :
    b.received steps ++ (b.run steps).channel.queue = b.channel.queue ++ b.accepted steps :=
  Trace.collect_conserves next (·.channel.queue) receivedBy acceptedBy (fun _ => True)
    (fun _ _ _ => trivial) (fun b a _ => receivedBy_append_queue b a) b trivial steps

/-- Once the last stream is gone, the channel stays closed whatever follows. -/
theorem run_not_isOpen (b : Bridge) (h : b.channel.isOpen = false) (later : List BridgeStep) :
    (b.run later).channel.isOpen = false := by
  induction later generalizing b with
  | nil => exact h
  | cons a later ih =>
    exact ih (b.next a) (Bool.eq_false_iff.mpr (mt (isOpen_of_next b a) (Bool.eq_false_iff.mp h)))

/-- Once the last sink is gone, nothing is sent any more whatever follows. -/
theorem run_not_hasSinks (b : Bridge) (h : b.hasSinks = false) (later : List BridgeStep) :
    (b.run later).hasSinks = false ∧ b.accepted later = [] := by
  induction later generalizing b with
  | nil => exact ⟨h, rfl⟩
  | cons a later ih =>
    have hnext : (b.next a).hasSinks = false :=
      Bool.eq_false_iff.mpr (mt (hasSinks_of_next b a) (Bool.eq_false_iff.mp h))
    obtain ⟨hrun, hsent⟩ := ih (b.next a) hnext
    refine ⟨hrun, ?_⟩
    rw [accepted, Trace.collect_cons, acceptedBy_of_not_hasSinks b a h, List.nil_append]
    exact hsent

/-- A receive takes the first event of the queue. -/
theorem step_receive (b : Bridge) (slot : Nat) (hs : b.channel.hasStream slot = true) :
    b.step (.stream slot .receive)
      = (.received (match b.channel.queue.head? with
          | some e => .event e
          | none => if b.hasSinks then .pending else .closed),
        { b with channel := { b.channel with queue := b.channel.queue.tail } }, []) := by
  rw [step_stream]
  exact congrArg (fun x => (x.1, { b with channel := x.2.1 }, x.2.2))
    (Channel.stream_receive b.hasSinks slot b.channel hs)

/-- Receiving once for each queued event and once more gives the queue in order, and then nothing:
    the last receive waits if there are sinks and fails if there are none. -/
theorem replies_receive (b : Bridge) (slot : Nat) (hs : b.channel.hasStream slot = true) :
    b.replies (List.replicate (b.channel.queue.length + 1) (.stream slot .receive))
      = b.channel.queue.map (fun e => .received (.event e))
        ++ [.received (if b.hasSinks then .pending else .closed)] := by
  -- on the queue alone: a receive changes nothing else
  obtain ⟨⟨queue, streams⟩, sinks⟩ := b
  induction queue with
  | nil =>
    rw [replies, List.length_nil, Nat.zero_add, List.replicate_one, Trace.collect_cons,
      Trace.collect_nil, step_receive _ slot hs]
    rfl
  | cons e rest ih =>
    rw [List.length_cons, List.replicate_succ, replies, Trace.collect_cons, next,
      step_receive _ slot hs]
    exact congrArg (Reply.received (.event e) :: ·) (ih hs)

/-- **Conservation.**  After any operations on a new bridge and its sinks and streams:
    what was received, in order, and the queue are the accepted sends, in order, and every live
    stream sees the same length; what is answered was received, and a wait logs what it received;
    a live sink sends with success if and only if some stream is there, a refused send changes
    nothing, and after the last stream every send is refused; the next event received is the next
    one that was sent; and after the last sink nothing is sent any more, while the queued events
    are still received in order, and only then does a receive fail. -/
theorem run_conserves (steps : List BridgeStep) :
    let b := Bridge.new.run steps
    let sent := Bridge.new.accepted steps
    let received := Bridge.new.received steps
    received ++ b.channel.queue = sent ∧
    (∀ slot, b.channel.hasStream slot →
      b.step (.stream slot .length) = (.number (sent.length - received.length), b, [])) ∧
    (∀ slot step, (b.step (.stream slot step)).1.events <:+ b.receivedBy (.stream slot step)) ∧
    (∀ slot id, (b.step (.stream slot (.wait id))).2.2
      = (b.receivedBy (.stream slot (.wait id))).flatMap (Wait.records id)) ∧
    (∀ slot e, b.hasSink slot →
      ((b.step (.sink slot (.send e))).1 = .sent ↔ ∃ stream, b.channel.hasStream stream)) ∧
    (∀ slot e, b.hasSink slot → (b.step (.sink slot (.send e))).1 ≠ .sent →
      b.step (.sink slot (.send e)) = (.fault .sendClosed, b, [])) ∧
    ((¬ ∃ stream, b.channel.hasStream stream) → ∀ later slot e,
      ((b.run later).step (.sink slot (.send e))).1 ≠ .sent) ∧
    (∀ slot, b.channel.hasStream slot → (b.step (.stream slot .receive)).1
      = .received (match sent[received.length]? with
          | some e => .event e
          | none => if b.hasSinks then .pending else .closed)) ∧
    (b.hasSinks = false → ∀ later,
      (b.run later).hasSinks = false ∧ Bridge.new.accepted (steps ++ later) = sent) ∧
    (∀ slot, b.channel.hasStream slot →
      b.replies (List.replicate (b.channel.queue.length + 1) (.stream slot .receive))
        = b.channel.queue.map (fun e => .received (.event e))
          ++ [.received (if b.hasSinks then .pending else .closed)]) := by
  intro b sent received
  have hbalance : received ++ b.channel.queue = sent := received_append_queue Bridge.new steps
  refine ⟨hbalance, ?_, ?_, ?_, step_send_eq_sent_iff b, step_send_of_ne_sent b, ?_, ?_, ?_,
    replies_receive b⟩
  · intro slot hs
    have hlen : b.channel.queue.length = sent.length - received.length := by
      rw [← hbalance, List.length_append]
      omega
    rw [← hlen]
    exact step_length b slot hs
  · intro slot step
    exact Channel.events_suffix_received b.hasSinks slot step b.channel
  · intro slot id
    exact Channel.wait_records b.hasSinks slot id b.channel
  · intro hclosed later slot e
    have hopen : b.channel.isOpen = false :=
      Bool.eq_false_iff.mpr (mt (Channel.isOpen_iff b.channel).mp hclosed)
    exact step_send_ne_sent _ slot e (run_not_isOpen b hopen later)
  · intro slot hs
    -- by the balance, the front of the queue is the first send that was not received yet
    have hhead : sent[received.length]? = b.channel.queue.head? := by
      rw [← hbalance, List.getElem?_append_right (Nat.le_refl _), Nat.sub_self,
        List.head?_eq_getElem?]
    rw [hhead, step_receive b slot hs]
  · intro hnone later
    obtain ⟨hrun, hsent⟩ := run_not_hasSinks b hnone later
    refine ⟨hrun, ?_⟩
    rw [accepted, Trace.collect_append]
    show sent ++ b.accepted later = sent
    rw [hsent, List.append_nil]

end Bridge
end DriverExtension
