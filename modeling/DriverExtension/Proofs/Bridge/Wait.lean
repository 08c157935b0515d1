import DriverExtension.Bridge.Wait

namespace DriverExtension

open Log

/-!
# The wait loop

What one look at the queue does for a wait, for every queue and every request:

* `Wait.taken` — the events that the loop receives, one after the other, before it stops;
* `Wait.taken_append_left`, `Wait.poll_records` — what was received and what is left make up the
  queue, and what was received is what is logged;
* `Wait.poll_append` — events that do not settle a wait delay it and are logged;
* `Wait.poll_split`, `Wait.poll_unsettled` — the exits of the loop: the first event that settles the
  wait is answered, or none does and the queue runs empty, with or without sinks;
* `Wait.poll_first_outcome` — all of this from the place of the first event that settles the wait.
-/

/-- What a reception returns to whoever waits: nothing as yet, an event, or a fault. -/
def Reception.result? : Reception → Option (Except Fault Event)
  | .event e => some (.ok e)
  | .pending => none
  | .closed => some (.error .receiveClosed)

namespace Wait

/-- The events that a wait receives before it stops, in order. -/
def taken (id : RequestId) : List Event → List Event
  | [] => []
  | e :: rest => if settles id e then [e] else e :: taken id rest

/-- A wait is settled by the terminal events of the request. -/
theorem settles_iff (id : RequestId) (e : Event) :
    settles id e = true ↔ e.isTerminal = true ∧ e.request.id = id := by
  rw [settles, Bool.and_eq_true, decide_eq_true_eq, and_comm]

/-- The events that settle a wait, by their test. -/
theorem settles_eq (id : RequestId) :
    settles id = fun e => e.isTerminal && decide (e.request.id = id) := by
  funext e
  rw [settles, Bool.and_comm]

/-! ### Accounts of the queue -/

/-- What a wait received and what it left behind make up the queue. -/
theorem taken_append_left (sinks : Bool) (id : RequestId) (q : List Event) :
    taken id q ++ (poll sinks id q).2.1 = q := by
  induction q with
  | nil => rfl
  | cons e rest ih =>
    by_cases he : settles id e
    · rw [taken, poll, if_pos he, if_pos he]
      rfl
    · rw [taken, poll, if_neg he, if_neg he, List.cons_append, ih]

/-- The records of a wait are those of the events that it received. -/
theorem poll_records (sinks : Bool) (id : RequestId) (q : List Event) :
    (poll sinks id q).2.2 = (taken id q).flatMap (records id) := by
  induction q with
  | nil => rfl
  | cons e rest ih =>
    by_cases he : settles id e
    · rw [taken, poll, if_pos he, if_pos he, List.flatMap_singleton]
    · rw [taken, poll, if_neg he, if_neg he, List.flatMap_cons, ← ih]

/-- An answered event settles the wait and is the last one that was received. -/
theorem poll_eq_event (sinks : Bool) (id : RequestId) (q : List Event) (e : Event)
    (h : (poll sinks id q).1 = .event e) : settles id e ∧ [e] <:+ taken id q := by
  induction q with
  -- an empty queue answers no event, with sinks or without
  | nil => cases sinks <;> cases h
  | cons x rest ih =>
    by_cases hx : settles id x
    · rw [poll, if_pos hx] at h
      obtain rfl : x = e := Reception.event.inj h
      rw [taken, if_pos hx]
      exact ⟨hx, List.suffix_rfl⟩
    · rw [poll, if_neg hx] at h
      obtain ⟨he, hlast⟩ := ih h
      rw [taken, if_neg hx]
      exact ⟨he, hlast.trans (List.suffix_cons x _)⟩

/-! ### The exits of the loop -/

/-- Events that do not settle a wait are received and logged, and the wait goes on behind them. -/
theorem poll_append (sinks : Bool) (id : RequestId) (pre q : List Event)
    (hpre : ∀ x ∈ pre, ¬ settles id x) :
    poll sinks id (pre ++ q)
      = ((poll sinks id q).1, (poll sinks id q).2.1,
          pre.flatMap (records id) ++ (poll sinks id q).2.2) := by
  -- on what stands in front, since the loop starts there
  induction pre with
  | nil => rfl
  | cons x pre ih =>
    have hx : ¬ settles id x := hpre x List.mem_cons_self
    have hrest := ih fun y hy => hpre y (List.mem_cons_of_mem x hy)
    rw [List.cons_append, poll, if_neg hx, hrest, List.flatMap_cons, List.append_assoc]

/-- **Settled.** The first event that settles a wait is answered, what stands behind it stays, and
    everything up to it is logged. -/
theorem poll_split (sinks : Bool) (id : RequestId) (pre : List Event) (e : Event)
    (post : List Event) (hpre : ∀ x ∈ pre, ¬ settles id x) (he : settles id e) :
    poll sinks id (pre ++ e :: post)
      = (.event e, post, (pre ++ [e]).flatMap (records id)) := by
  rw [poll_append sinks id pre _ hpre, poll, if_pos he, List.flatMap_append,
    List.flatMap_singleton]

/-- **Unsettled.** Where no event settles a wait, all that is queued is received and logged. -/
theorem poll_unsettled (sinks : Bool) (id : RequestId) (q : List Event)
    (hq : ∀ x ∈ q, ¬ settles id x) :
    poll sinks id q = (if sinks then .pending else .closed, [], q.flatMap (records id)) := by
  have h := poll_append sinks id q [] hq
  rw [List.append_nil] at h
  rw [h, poll, List.append_nil]

/-- The wait stops at the first event that settles it, which it answers. -/
theorem poll_of_findIdx?_eq_some (sinks : Bool) (id : RequestId) (q : List Event) (i : Nat)
    (hi : q.findIdx? (settles id) = some i) :
    (∃ e, q[i]? = some e ∧ (poll sinks id q).1 = .event e) ∧
    (poll sinks id q).2.1 = q.drop (i + 1) ∧ taken id q = q.take (i + 1) := by
  obtain ⟨hlen, he, hbefore⟩ := List.findIdx?_eq_some_iff_getElem.mp hi
  have hpre : ∀ x ∈ q.take i, ¬ settles id x := by
    intro x hx
    obtain ⟨j, hj, rfl⟩ := List.mem_take_iff_getElem.mp hx
    exact hbefore j (by omega)
  have hq : q = q.take i ++ q[i] :: q.drop (i + 1) := by
    rw [← List.drop_eq_getElem_cons, List.take_append_drop]
  have hpoll := poll_split sinks id (q.take i) q[i] (q.drop (i + 1)) hpre he
  rw [← hq] at hpoll
  -- what was received is known from what is left
  have haccount := taken_append_left sinks id q
  rw [hpoll] at haccount ⊢
  refine ⟨⟨q[i], List.getElem?_eq_getElem hlen, rfl⟩, rfl, ?_⟩
  exact List.append_cancel_right (haccount.trans (List.take_append_drop (i + 1) q).symm)

/-- Without an event that settles it, the wait empties the queue. -/
theorem poll_of_findIdx?_eq_none (sinks : Bool) (id : RequestId) (q : List Event)
    (hi : q.findIdx? (settles id) = none) :
    (poll sinks id q).1 = (if sinks then .pending else .closed) ∧
    (poll sinks id q).2.1 = [] ∧ taken id q = q := by
  have hq : ∀ x ∈ q, ¬ settles id x := by
    intro x hx
    rw [List.findIdx?_eq_none_iff.mp hi x hx]
    exact Bool.false_ne_true
  have haccount := taken_append_left sinks id q
  rw [poll_unsettled sinks id q hq] at haccount ⊢
  refine ⟨rfl, rfl, ?_⟩
  rw [List.append_nil] at haccount
  exact haccount

/-! ### The records of a wait -/

/-- A wait logs an event, and that it passes over an event of another request. -/
theorem records_eq (id : RequestId) (e : Event) :
    records id e = e.record :: if e.request.id = id then [] else
      [⟨.debug, "common::controller",
        s!"Ignoring event for {e.request.id} while waiting on {id}"⟩] := by
  by_cases h : e.request.id = id
  · rw [records, if_pos h, if_pos h]
  · rw [records, if_neg h, if_neg h]
    rfl

/-- The record of an event is never at debug level. -/
theorem record_level_ne_debug (e : Event) : e.record.level ≠ .debug := by
  cases e with
  | replacementNeeded r existing replacement action => cases action <;> exact Level.noConfusion
  | approvalNeeded r => exact Level.noConfusion
  | finished r result => exact Level.noConfusion
  | failed r failure => exact Level.noConfusion

/-- Above debug level, a wait logs one record for each event that it received. -/
theorem filter_records_ne_debug (id : RequestId) (es : List Event) :
    (es.flatMap (records id)).filter (·.level ≠ .debug) = es.map Event.record := by
  induction es with
  | nil => rfl
  | cons e es ih =>
    have hrec : e.record.level ≠ .debug := record_level_ne_debug e
    have hone : (records id e).filter (·.level ≠ .debug) = [e.record] := by
      by_cases h : e.request.id = id
      · simp [records, h, hrec]
      · simp [records, ignored, h, hrec]
    rw [List.flatMap_cons, List.filter_append, hone, ih, List.map_cons, List.singleton_append]

/-! ### The whole loop -/

/-- **The wait loop.**  Let `i` be the first place in the queue of a terminal event of the request.
    If there is one, the wait answers the event at `i` and leaves exactly what stands behind it;
    if there is none, the queue is left empty and the wait goes on as long as some sink is left,
    and fails otherwise.  In every case each event that was received is logged once, in order,
    followed by one debug record if and only if it belongs to another request. -/
theorem poll_first_outcome (sinks : Bool) (r : Request) (q : List Event) :
    let (reception, left, logged) := poll sinks r.id q
    let received := taken r.id q
    (match q.findIdx? fun e => e.isTerminal && e.request.id = r.id with
      | some i => (∃ e, q[i]? = some e ∧ reception.result? = some (.ok e)) ∧
          left = q.drop (i + 1) ∧ received = q.take (i + 1)
      | none => reception.result?
            = (if sinks then none
               else some (.error (.channel "receiving from an empty and closed channel"))) ∧
          left = [] ∧ received = q) ∧
    received ++ left = q ∧
    logged = (received.flatMap fun e =>
      e.record :: if e.request.id = r.id then [] else
        [⟨.debug, "common::controller",
          s!"Ignoring event for {e.request.id} while waiting on {r.id}"⟩]) ∧
    logged.filter (·.level ≠ .debug) = received.map Event.record ∧
    (∀ e, reception.result? = some (.ok e) → e.isTerminal ∧ e.request.id = r.id) := by
  have hfind : (fun e : Event => e.isTerminal && decide (e.request.id = r.id)) = settles r.id := by
    funext e
    rw [settles, Bool.and_comm]
  refine ⟨?_, taken_append_left sinks r.id q, ?_, ?_, ?_⟩
  · rw [hfind]
    cases hi : q.findIdx? (settles r.id) with
    | some i =>
      obtain ⟨⟨e, he, hanswer⟩, hleft, htaken⟩ := poll_of_findIdx?_eq_some sinks r.id q i hi
      refine ⟨⟨e, he, ?_⟩, hleft, htaken⟩
      rw [hanswer, Reception.result?]
    | none =>
      obtain ⟨hanswer, hleft, htaken⟩ := poll_of_findIdx?_eq_none sinks r.id q hi
      refine ⟨?_, hleft, htaken⟩
      rw [hanswer]
      cases sinks <;> rfl
  · rw [poll_records]
    exact congrArg (List.flatMap · _) (funext (records_eq r.id))
  · rw [poll_records, filter_records_ne_debug]
  · intro e he
    have hevent : (poll sinks r.id q).1 = .event e := by
      cases hr : (poll sinks r.id q).1 with
      | event x => rw [hr] at he; cases he; rfl
      | pending => rw [hr] at he; cases he
      | closed => rw [hr] at he; cases he
    exact (settles_iff r.id e).mp (poll_eq_event sinks r.id q e hevent).1

end Wait
end DriverExtension
