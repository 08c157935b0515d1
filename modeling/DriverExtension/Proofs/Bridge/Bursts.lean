import DriverExtension.Proofs.Bridge.Series

namespace DriverExtension

open Log

/-!
# Events that arrive in bursts

The system sends events whenever it likes, so a wait looks at the queue several times before it is
answered.  What it finds does not depend on how often it looks.

* `Wait.split_or_unsettled` — a queue has a first event that settles a wait, or it has none;
* `Bridge.run_sends` — sends through a live sink put their events at the end of the queue;
* `Bridge.trickle` — events are sent one burst at a time, with a look after each burst;
* `Bridge.trickle_of_settled`, `Bridge.trickle_of_unsettled` — what one burst does to the wait;
* `Bridge.trickle_eq_wait` — the wait ends as if all events had been there from the start.
-/

namespace Wait

/-- A queue has a first event that settles a wait, or no event in it does. -/
theorem split_or_unsettled (id : RequestId) (q : List Event) :
    (∃ pre e post, q = pre ++ e :: post ∧ (∀ x ∈ pre, ¬ settles id x) ∧ settles id e) ∨
      ∀ x ∈ q, ¬ settles id x := by
  cases hfind : q.find? (settles id) with
  | some e =>
    obtain ⟨he, pre, post, hq, hpre⟩ := List.find?_eq_some_iff_append.mp hfind
    exact Or.inl ⟨pre, e, post, hq, by simpa using hpre, he⟩
  | none => exact Or.inr (by simpa using hfind)

end Wait

namespace Bridge

/-- Sends events through the sink of a slot, one after the other. -/
def sends (slot : Nat) (es : List Event) : List BridgeStep := es.map fun e => .sink slot (.send e)

/-- Sends bursts of events, one at a time, and looks for the outcome of a request after each of them
    until there is one.  Returns the last answer to the wait, the bridge, the bursts that were not
    sent any more, and the records. -/
def trickle (sink stream : Nat) (id : RequestId) (b : Bridge) :
    List (List Event) → Reply × Bridge × List (List Event) × List Record
  | [] => (.received .pending, b, [], [])
  | burst :: later =>
    let (reply, b, records) := (b.run (sends sink burst)).step (.stream stream (.wait id))
    match reply with
    | .received .pending =>
      let (reply, b, unsent, others) := trickle sink stream id b later
      (reply, b, unsent, records ++ others)
    | reply => (reply, b, later, records)

variable {b : Bridge} {sink stream : Nat}

/-- As long as there is a stream, what a live sink sends is put at the end of the queue, in
    order. -/
theorem run_sends (hsink : b.hasSink sink = true) (hopen : b.channel.isOpen = true)
    (q es : List Event) :
    (b.withQueue q).run (sends sink es) = b.withQueue (q ++ es) := by
  induction es generalizing q with
  | nil => rw [List.append_nil]; rfl
  | cons e es ih =>
    have hstep : ((b.withQueue q).step (.sink sink (.send e))).2.1 = b.withQueue (q ++ [e]) := by
      have hopen' : (b.withQueue q).channel.isOpen = true := hopen
      rw [step_send (b.withQueue q) sink e hsink, hopen']
      rfl
    have hrest := ih (q ++ [e])
    rw [List.append_assoc, List.singleton_append] at hrest
    rw [run, sends, List.map_cons, List.foldl_cons, hstep]
    exact hrest

/-- A look after a burst. -/
theorem wait_of_sends (hsink : b.hasSink sink = true) (hstream : b.channel.hasStream stream = true)
    (id : RequestId) (q es : List Event) :
    ((b.withQueue q).run (sends sink es)).step (.stream stream (.wait id))
      = (.received (Wait.poll true id (q ++ es)).1,
        b.withQueue (Wait.poll true id (q ++ es)).2.1, (Wait.poll true id (q ++ es)).2.2) := by
  have hopen : b.channel.isOpen = true := (Channel.isOpen_iff b.channel).mpr ⟨stream, hstream⟩
  have hsinks : (b.withQueue (q ++ es)).hasSinks = true :=
    (hasSinks_iff _).mpr ⟨sink, hsink⟩
  rw [run_sends hsink hopen, step_wait (b := b.withQueue (q ++ es)) hstream, hsinks]
  rfl

/-- **Settled.**  A burst that brings the outcome ends the wait; nothing is sent after it. -/
theorem trickle_of_settled (hsink : b.hasSink sink = true)
    (hstream : b.channel.hasStream stream = true) (id : RequestId) (q burst : List Event)
    (later : List (List Event)) (pre : List Event) (e : Event) (post : List Event)
    (hq : q ++ burst = pre ++ e :: post) (hpre : ∀ x ∈ pre, ¬ Wait.settles id x)
    (he : Wait.settles id e) :
    (b.withQueue q).trickle sink stream id (burst :: later)
      = (.received (.event e), b.withQueue post, later,
          (pre ++ [e]).flatMap (Wait.records id)) := by
  have hwait := wait_of_sends hsink hstream id q burst
  rw [hq, Wait.poll_split true id pre e post hpre he] at hwait
  rw [trickle, hwait]

/-- **Unsettled.**  A burst without an outcome is consumed, and the wait goes on with the next one
    on an empty queue. -/
theorem trickle_of_unsettled (hsink : b.hasSink sink = true)
    (hstream : b.channel.hasStream stream = true) (id : RequestId) (q burst : List Event)
    (later : List (List Event)) (hq : ∀ x ∈ q ++ burst, ¬ Wait.settles id x) :
    let (reply, after, unsent, records) := (b.withQueue []).trickle sink stream id later
    (b.withQueue q).trickle sink stream id (burst :: later)
      = (reply, after, unsent, (q ++ burst).flatMap (Wait.records id) ++ records) := by
  have hwait := wait_of_sends hsink hstream id q burst
  rw [Wait.poll_unsettled true id _ hq] at hwait
  show (b.withQueue q).trickle sink stream id (burst :: later) = _
  rw [trickle, hwait]
  rfl

/-- **Append law.**  Sending burst after burst is one look at all that was queued and sent: it ends
    with the same answer and the same records, and what is still queued or was not sent is what the
    look leaves; without an answer nothing is left. -/
theorem trickle_eq_poll (hsink : b.hasSink sink = true)
    (hstream : b.channel.hasStream stream = true) (id : RequestId) (q : List Event)
    (bursts : List (List Event)) (hq : q = [] ∨ bursts ≠ []) :
    let (reply, after, unsent, records) := (b.withQueue q).trickle sink stream id bursts
    let (reception, left, logged) := Wait.poll true id (q ++ bursts.flatten)
    reply = .received reception ∧ records = logged ∧
      after.channel.queue ++ unsent.flatten = left ∧
      ((∃ e, reception = .event e) ∨ (reception = .pending ∧ unsent = [] ∧ left = [])) := by
  -- on the bursts, for any queue: after a burst without an outcome it is empty
  induction bursts generalizing q with
  | nil =>
    obtain rfl : q = [] := hq.resolve_right fun h => h rfl
    exact ⟨rfl, rfl, rfl, Or.inr ⟨rfl, rfl, rfl⟩⟩
  | cons burst later ih =>
    have hall : q ++ (burst :: later).flatten = (q ++ burst) ++ later.flatten := by simp
    rw [hall]
    obtain ⟨pre, e, post, hsplit, hpre, he⟩ | hunsettled := Wait.split_or_unsettled id (q ++ burst)
    · have htrickle := trickle_of_settled hsink hstream id q burst later pre e post hsplit hpre he
      have hpoll := Wait.poll_split true id pre e (post ++ later.flatten) hpre he
      rw [hsplit, List.append_assoc, List.cons_append, htrickle, hpoll]
      exact ⟨rfl, rfl, rfl, Or.inl ⟨e, rfl⟩⟩
    · have htrickle := trickle_of_unsettled hsink hstream id q burst later hunsettled
      have hpoll := Wait.poll_append true id (q ++ burst) later.flatten hunsettled
      obtain ⟨hreply, hrecords, hleft, hend⟩ := ih [] (Or.inl rfl)
      rw [htrickle, hpoll]
      exact ⟨hreply, congrArg (_ ++ ·) hrecords, hleft, hend⟩

/-- **Arrival timing.**  Let events be cut into bursts in any way, and let the bursts be sent one at
    a time, with a look for the outcome of a request after each of them until there is one.  The
    wait ends with the same answer and the same records as one look after all events were sent, and
    the events that are still queued or were not sent are those that this look leaves, in the same
    order.  If there is no outcome, both waits go on, on an empty queue. -/
theorem trickle_eq_wait (b : Bridge) (sink stream : Nat) (r : Request)
    (bursts : List (List Event)) (hsink : b.hasSink sink = true)
    (hstream : b.channel.hasStream stream = true)
    (hstart : b.channel.queue = [] ∨ bursts ≠ []) :
    let (reply, after, unsent, records) := b.trickle sink stream r.id bursts
    let (reply', after', records') :=
      (b.run (sends sink bursts.flatten)).step (.stream stream (.wait r.id))
    reply = reply' ∧ records = records' ∧
      after.channel.queue ++ unsent.flatten = after'.channel.queue ∧
      ((∃ e, reply = .received (.event e)) ∨
        (reply = .received .pending ∧ unsent = [] ∧ after.channel.queue = [] ∧
          after'.channel.queue = [])) := by
  have hwait := wait_of_sends hsink hstream r.id b.channel.queue bursts.flatten
  obtain ⟨hreply, hrecords, hleft, hend⟩ :=
    trickle_eq_poll hsink hstream r.id b.channel.queue bursts hstart
  have hself : b.withQueue b.channel.queue = b := rfl
  rw [hself] at hwait hreply hrecords hleft hend
  rw [hwait]
  refine ⟨hreply, hrecords, hleft, ?_⟩
  rcases hend with ⟨e, he⟩ | ⟨hpending, hunsent, hnone⟩
  · exact Or.inl ⟨e, by rw [hreply, he]⟩
  · rw [hunsent, hnone] at hleft
    exact Or.inr ⟨by rw [hreply, hpending], hunsent, by simpa using hleft, hnone⟩

/-- Four bursts, the second of them empty: the third brings the outcome, and what comes with it and
    after it is left in order. -/
theorem trickle_eq_wait_four :
    let r : Request := ⟨⟨1⟩, .activate, .standard⟩
    let other : Request := ⟨⟨2⟩, .deactivate, .standard⟩
    let bursts : List (List Event) :=
      [[.approvalNeeded r], [], [.finished other .completed, .finished r .completed,
        .approvalNeeded other], [.approvalNeeded r]]
    new.hasSink 0 = true ∧ new.channel.hasStream 0 = true ∧
    (new.channel.queue = [] ∨ bursts ≠ []) ∧
    (new.trickle 0 0 r.id bursts).1
      = ((new.run (sends 0 bursts.flatten)).step (.stream 0 (.wait r.id))).1 ∧
    (new.trickle 0 0 r.id bursts).1 = .received (.event (.finished r .completed)) := by
  intro r other bursts
  have hstart : new.channel.queue = [] ∨ bursts ≠ [] := Or.inl rfl
  have hanswer : (new.trickle 0 0 r.id bursts).1 = .received (.event (.finished r .completed)) :=
    rfl
  have hwait := trickle_eq_wait new 0 0 r bursts rfl rfl hstart
  refine ⟨rfl, rfl, hstart, ?_, hanswer⟩
  -- the two runs stay closed terms: only their answers are compared
  generalize new.trickle 0 0 r.id bursts = trickled at hwait ⊢
  generalize (new.run (sends 0 bursts.flatten)).step (.stream 0 (.wait r.id)) = waited at hwait ⊢
  exact hwait.1

end Bridge
end DriverExtension
