import DriverExtension.Proofs.Bridge.Conservation
import DriverExtension.Proofs.Lifecycle.Provenance
import Mathlib.Data.List.Count

namespace DriverExtension

open Log

/-!
# The sinks behind a session

A stream fails when nothing is queued and no sink is left.  The sinks of a session are the one of
its controller, one for each recorded delegate and one for each copy of a delegate; a manager that
does not keep the delegate of a request drops its sink.

* `Channel.stream_eq_closed_iff` — the closing rule: which operations on a stream fail, and when;
* `Session.sinks` — how many sinks are left, counted by their holders;
* `SessionTurn` — an operation on a session, or a manager that begins or ceases to refuse;
* `Session.madeBy`, `Session.droppedBy` — the sinks that a turn makes and drops;
* `Session.sinks_balance`, `Session.sinks_along` — these account for the sinks that are left;
* `Session.step_stream_closed_iff` — the closing rule for a session, whoever holds its sinks;
* `Session.sinks_after_eq_zero`, `Session.taken_append_queue` — after the last sink none is made any
  more, and what is queued is taken in order.
-/

/-! ### The closing rule -/

/-- A wait fails where no sink is left and nothing in the queue settles it. -/
theorem Wait.poll_eq_closed_iff (sinks : Bool) (id : RequestId) (q : List Event) :
    (poll sinks id q).1 = .closed ↔ sinks = false ∧ ∀ e ∈ q, ¬ settles id e := by
  constructor
  · intro h
    cases hi : q.findIdx? (settles id) with
    | some i =>
      obtain ⟨⟨e, -, he⟩, -⟩ := poll_of_findIdx?_eq_some sinks id q i hi
      rw [he] at h
      cases h
    | none =>
      rw [(poll_of_findIdx?_eq_none sinks id q hi).1] at h
      refine ⟨?_, by simpa using hi⟩
      cases sinks with
      | true => cases h
      | false => rfl
  · rintro ⟨rfl, hq⟩
    rw [poll_unsettled false id q hq]
    rfl

/-- **The closing rule.**  Only receiving and waiting can fail, and they do exactly if no sink is
    left and the queue has nothing for them. -/
theorem Channel.stream_eq_closed_iff (sinks : Bool) (slot : Nat) (a : StreamStep) (c : Channel) :
    (c.stream sinks slot a).1 = .received .closed ↔
      c.hasStream slot = true ∧ sinks = false ∧
        (a = .receive ∧ c.queue = [] ∨
          ∃ id, a = .wait id ∧ ∀ e ∈ c.queue, ¬ Wait.settles id e) := by
  cases hs : c.hasStream slot with
  | false => simp [stream_of_not_hasStream sinks slot a c hs]
  | true =>
    cases a with
    | receive =>
      rw [stream_receive sinks slot c hs]
      obtain ⟨queue, streams⟩ := c
      cases queue <;> cases sinks <;> simp
    | wait id =>
      have hreply : (c.stream sinks slot (.wait id)).1
          = .received (Wait.poll sinks id c.queue).1 := by
        unfold stream
        rw [hs]
        rfl
      simp [hreply, Wait.poll_eq_closed_iff]
    | tryReceive =>
      obtain ⟨queue, streams⟩ := c
      unfold stream
      rw [hs]
      cases queue <;> simp
    | clone => simp [stream, hs]
    | drop => simp [stream, hs]
    | length => simp [stream, hs]
    | isEmpty => simp [stream, hs]
    | drain => simp [stream, hs]

/-! ### Holders -/

/-- Whether a manager keeps the delegates of the requests that it is given. -/
def Manager.keeps : Manager → Bool
  | .recorder none _ => true
  | _ => false

/-- The manager once it refuses for a reason, or refuses no more. -/
def Manager.refusing (reason : Option String) : Manager → Manager
  | .recorder _ ds => .recorder reason ds
  | .scripted script _ => .scripted script reason.isSome
  | .platform => .platform

/-- A manager that changes its mind holds on to its delegates. -/
theorem Manager.submitted_refusing (reason : Option String) (m : Manager) :
    (m.refusing reason).submitted = m.submitted := by
  cases m <;> rfl

/-- A submission adds its delegate to those recorded if the manager keeps it. -/
theorem Manager.submitted_submit (m : Manager) (d : Delegate) (c : Channel) :
    (m.submit d c).2.1.submitted = m.submitted ++ if m.keeps then [d] else [] := by
  cases m with
  | recorder refusal ds => cases refusal <;> simp [submit, submitted, keeps]
  | platform => rfl
  | scripted script refuses => rfl

/-- A manager that refuses a request does not keep its delegate. -/
theorem Manager.not_keeps_of_submit (m : Manager) (d : Delegate) (c : Channel) (f : Fault)
    (h : (m.submit d c).1 = .error f) : m.keeps = false := by
  cases m with
  | recorder refusal ds =>
    cases refusal with
    | none => cases h
    | some reason => rfl
  | platform => rfl
  | scripted script refuses => rfl

/-- A turn of a session: an operation, or the manager begins or ceases to refuse. -/
inductive SessionTurn where
  | operation (a : SessionStep)
  | refusal (reason : Option String)
deriving DecidableEq

namespace Session

/-- The recorded delegates that are still there: the controller and the handle keep the manager. -/
def held (s : Session) : List Delegate :=
  if s.controller.isSome || s.handle then s.manager.submitted else []

/-- The slots of the sinks, by their holders: the controller, the recorded delegates, and the
    copies. -/
def holders (s : Session) : List Bool :=
  s.controller.isSome :: (s.held.map fun _ => true) ++ s.copies.map Option.isSome

/-- The bridge of a session: its channel and its sinks. -/
def bridge (s : Session) : Bridge := ⟨s.channel, s.holders⟩

/-- How many sinks are left. -/
def sinks (s : Session) : Nat := s.holders.count true

/-- The session after a turn. -/
def turn (s : Session) : SessionTurn → Session
  | .operation a => s.next a
  | .refusal reason => { s with manager := s.manager.refusing reason }

/-- The session after a list of turns. -/
def after (s : Session) (turns : List SessionTurn) : Session := turns.foldl turn s

/-- The sinks that a turn makes, each a clone of one that is left: a submission one for its
    delegate, and a copy of a delegate one of its own. -/
def madeBy (s : Session) : SessionTurn → Nat
  | .operation (.submit _) => if s.controller.isSome then 1 else 0
  | .operation (.copy n) => if (s.delegate n).isOk then 1 else 0
  | .operation (.onCopy slot .clone) => if s.copies[slot]?.join.isSome then 1 else 0
  | _ => 0

/-- The sinks that a turn drops: those of a delegate that the manager does not keep, of a copy, of
    the controller, and of all recorded delegates when nobody holds on to their manager. -/
def droppedBy (s : Session) : SessionTurn → Nat
  | .operation (.submit _) => if s.controller.isSome && !s.manager.keeps then 1 else 0
  | .operation (.onCopy slot .drop) => if s.copies[slot]?.join.isSome then 1 else 0
  | .operation .dropController =>
    if s.controller.isSome then 1 + (if s.handle then 0 else s.manager.submitted.length) else 0
  | .operation .dropHandle =>
    if s.handle && s.controller.isNone then s.manager.submitted.length else 0
  | _ => 0

/-- The sinks that a run makes. -/
def made (s : Session) (turns : List SessionTurn) : Nat := Trace.tally turn madeBy s turns

/-- The sinks that a run drops. -/
def dropped (s : Session) (turns : List SessionTurn) : Nat := Trace.tally turn droppedBy s turns

/-- The events that a turn takes through a stream. -/
def takenBy (s : Session) : SessionTurn → List Event
  | .operation a => s.receivedBy a
  | .refusal _ => []

/-- The events that a run takes through all streams, in order. -/
def taken (s : Session) (turns : List SessionTurn) : List Event :=
  Trace.collect turn takenBy s turns

/-! ### Counting -/

/-- The sinks by their holders. -/
theorem sinks_eq (s : Session) :
    s.sinks = s.controller.isSome.toNat + s.held.length + s.copies.countP Option.isSome := by
  have hcopies : (s.copies.map Option.isSome).count true = s.copies.countP Option.isSome := by
    rw [List.count_eq_countP, List.countP_map]
    exact List.countP_congr fun d _ => by simp
  have hheld : (s.held.map fun _ => true).count true = s.held.length := by
    rw [List.map_const', List.count_replicate_self]
  rw [sinks, holders, List.count_append, List.count_cons, hheld, hcopies]
  cases s.controller with
  | none => simp
  | some c => simp; omega

/-- The bridge of a session has a sink exactly if the session does. -/
theorem hasSinks_bridge (s : Session) : s.bridge.hasSinks = s.hasSinks := by
  unfold Bridge.hasSinks bridge holders hasSinks held
  cases s.controller <;> cases s.handle <;> cases s.manager.submitted <;> simp

/-- A session has a sink exactly if some are left by count. -/
theorem hasSinks_iff_sinks (s : Session) : s.hasSinks = true ↔ 0 < s.sinks := by
  rw [← hasSinks_bridge, sinks, List.count_pos_iff, Bridge.hasSinks, List.any_eq_true]
  simp [bridge]

/-- A session has no sink exactly if all who could hold one are gone. -/
theorem sinks_eq_zero_iff (s : Session) :
    s.sinks = 0 ↔ s.controller = none ∧ s.held = [] ∧ ∀ d, some d ∉ s.copies := by
  rw [sinks_eq, Nat.add_eq_zero_iff, Nat.add_eq_zero_iff, List.length_eq_zero_iff,
    List.countP_eq_zero, and_assoc]
  refine and_congr (by cases s.controller <;> simp) (and_congr Iff.rfl ?_)
  constructor
  · intro h d hd
    exact h (some d) hd rfl
  · rintro h (- | d) hd
    · exact Bool.false_ne_true
    · exact absurd hd (h d)

/-- With a sink of the controller's own the session has one. -/
theorem sinks_pos_of_controller (s : Session) (h : s.controller.isSome = true) : 0 < s.sinks := by
  rw [sinks_eq, h]
  simp only [Bool.toNat_true]
  omega

/-! ### One turn -/

/-- Emptying the slot of a copy leaves one copy less. -/
theorem countP_set_none (copies : List (Option Delegate)) (slot : Nat) (d : Delegate)
    (h : copies[slot]? = some (some d)) :
    (copies.set slot none).countP Option.isSome + 1 = copies.countP Option.isSome := by
  obtain ⟨hlt, hd⟩ := List.getElem?_eq_some_iff.mp h
  have hpos : 0 < copies.countP Option.isSome :=
    List.countP_pos_iff.mpr ⟨some d, List.mem_of_getElem? h, rfl⟩
  rw [List.countP_set hlt, hd]
  simp only [Option.isSome_some, Option.isSome_none, if_pos, Bool.false_eq_true, if_false]
  omega

/-- A slot where no copy is found holds none. -/
theorem copy_eq_none {s : Session} {slot : Nat} (h : ∀ d, s.copies[slot]? ≠ some (some d)) :
    s.copies[slot]?.join = none :=
  Option.eq_none_iff_forall_ne_some.mpr fun d hd => h d (Option.join_eq_some_iff.mp hd)

/-- **Balance of a turn.**  The sinks that are left after a turn, and those that it dropped, are the
    sinks that were left before it, and those that it made. -/
theorem sinks_balance (s : Session) (t : SessionTurn) :
    (s.turn t).sinks + s.droppedBy t = s.sinks + s.madeBy t := by
  rw [sinks_eq, sinks_eq]
  cases t with
  | refusal reason =>
    -- the manager holds on to its delegates
    simp [turn, held, Manager.submitted_refusing, madeBy, droppedBy]
  | operation a =>
    cases a with
    | submit kind =>
      rw [turn, next, step, submit]
      cases hc : s.controller with
      | none => simp [madeBy, droppedBy, hc]
      | some c =>
        have hheld := s.manager.submitted_submit ⟨c.request kind, c.policy⟩ s.channel
        simp only [madeBy, droppedBy, held, hc, Controller.submit, hheld]
        cases s.manager.keeps with
        | true => simp; omega
        | false => simp
    | callback n callback =>
      rw [turn, next, step]
      cases s.delegate n <;> rfl
    | copy n =>
      rw [turn, next, step]
      cases hd : s.delegate n with
      | error reply => simp [madeBy, droppedBy, hd, Except.isOk, Except.toBool]
      | ok d => simp [madeBy, droppedBy, hd, held, Except.isOk, Except.toBool]; omega
    | onCopy slot a =>
      rw [turn, next, step, copyStep]
      split
      · rename_i d hd
        cases a with
        | callback callback => rfl
        | clone => simp [madeBy, droppedBy, hd, held]; omega
        | drop =>
          have hcount := countP_set_none s.copies slot d hd
          simp [madeBy, droppedBy, hd, held]
          omega
      · rename_i hd
        cases a <;> simp [madeBy, droppedBy, copy_eq_none hd]
    | stream slot a => rfl
    | dropController =>
      rw [turn, next, step]
      simp only [madeBy, droppedBy, held]
      cases s.controller <;> cases s.handle <;> simp <;> omega
    | dropHandle =>
      rw [turn, next, step]
      simp only [madeBy, droppedBy, held]
      cases s.controller with
      | some c => simp
      | none => cases s.handle <;> simp; omega

/-- A refused submission leaves no sink behind. -/
theorem sinks_of_refused (s : Session) (kind : RequestKind) (f : Fault)
    (h : (s.step (.submit kind)).1 = .submitted (.error f)) :
    (s.next (.submit kind)).sinks = s.sinks := by
  have hbalance := s.sinks_balance (.operation (.submit kind))
  rw [step, submit] at h
  cases hc : s.controller with
  | none => rw [hc] at h; cases h
  | some c =>
    rw [hc] at h
    have hresult : (s.manager.submit ⟨c.request kind, c.policy⟩ s.channel).1.map
        (fun _ => c.request kind) = .error f := SessionReply.submitted.inj h
    cases haccepted : (s.manager.submit ⟨c.request kind, c.policy⟩ s.channel).1 with
    | ok _ => rw [haccepted] at hresult; cases hresult
    | error f' =>
      -- the delegate was made and dropped again
      have hkeeps := s.manager.not_keeps_of_submit _ _ f' haccepted
      simp only [madeBy, droppedBy, hc, hkeeps] at hbalance
      exact Nat.add_right_cancel hbalance

/-- **The sinks along a run.** -/
theorem sinks_along (s : Session) (turns : List SessionTurn) :
    (s.after turns).sinks + s.dropped turns = s.sinks + s.made turns :=
  Trace.tally_balances turn sinks madeBy droppedBy sinks_balance s turns

-- an accepted submission leaves a sink with its delegate, a refused one none
example : ((Session.new .standard .standard (.recorder none [])).after
    [.operation (.submit .activate), .refusal (some "busy"),
      .operation (.submit .deactivate)]).sinks = 2 := by rfl

/-! ### Streams -/

/-- An operation on a stream of a session is one on its bridge. -/
theorem step_stream (s : Session) (slot : Nat) (a : StreamStep) :
    s.step (.stream slot a)
      = (.stream (s.bridge.step (.stream slot a)).1,
        { s with channel := (s.bridge.next (.stream slot a)).channel },
        (s.bridge.step (.stream slot a)).2.2) := by
  rw [step, ← hasSinks_bridge]
  rfl

/-- It leaves the sinks alone. -/
theorem bridge_next_stream (s : Session) (slot : Nat) (a : StreamStep) :
    (s.next (.stream slot a)).bridge = s.bridge.next (.stream slot a) := by
  rw [next, step_stream]
  rfl

/-- Streams of a session answer as those of its bridge. -/
theorem replies_stream (s : Session) (ops : List (Nat × StreamStep)) :
    s.replies (ops.map fun (slot, a) => .stream slot a)
      = (s.bridge.replies (ops.map fun (slot, a) => .stream slot a)).map .stream := by
  induction ops generalizing s with
  | nil => rfl
  | cons op rest ih =>
    obtain ⟨slot, a⟩ := op
    have hrest := ih (s.next (.stream slot a))
    rw [bridge_next_stream] at hrest
    simp only [replies, Bridge.replies, List.map_cons, Trace.collect_cons, List.map_append] at *
    rw [hrest, step_stream]
    rfl

/-- **The closing rule for a session.**  An operation on a stream fails exactly if it receives or
    waits, all sinks that were made have been dropped, and the queue has nothing for it. -/
theorem step_stream_closed_iff (s : Session) (slot : Nat) (a : StreamStep) :
    (s.step (.stream slot a)).1 = .stream (.received .closed) ↔
      s.channel.hasStream slot = true ∧ s.sinks = 0 ∧
        (a = .receive ∧ s.channel.queue = [] ∨
          ∃ id, a = .wait id ∧ ∀ e ∈ s.channel.queue, ¬ Wait.settles id e) := by
  have hreply : (s.step (.stream slot a)).1 = .stream (.received .closed) ↔
      (s.channel.stream s.hasSinks slot a).1 = .received .closed := by
    rw [step]
    exact ⟨SessionReply.stream.inj, congrArg SessionReply.stream⟩
  have hzero : s.hasSinks = false ↔ s.sinks = 0 := by
    rw [← Bool.not_eq_true, hasSinks_iff_sinks]
    omega
  rw [hreply, Channel.stream_eq_closed_iff, hzero]

/-- Receiving over and over gives the queue in order; then it waits as long as some sink is left,
    and fails otherwise. -/
theorem replies_receive (s : Session) (slot : Nat) (hs : s.channel.hasStream slot = true) :
    s.replies (List.replicate (s.channel.queue.length + 1) (.stream slot .receive))
      = s.channel.queue.map (fun e => .stream (.received (.event e)))
        ++ [.stream (.received (if s.sinks = 0 then .closed else .pending))] := by
  have hreplies := s.replies_stream (List.replicate (s.channel.queue.length + 1) (slot, .receive))
  have hbridge := s.bridge.replies_receive slot hs
  rw [List.map_replicate, List.map_replicate] at hreplies
  rw [hreplies]
  refine (congrArg (List.map SessionReply.stream) hbridge).trans ?_
  have hsinks : s.bridge.hasSinks = decide (s.sinks ≠ 0) := by
    rw [hasSinks_bridge, Bool.eq_iff_iff, hasSinks_iff_sinks, decide_eq_true_eq]
    omega
  rw [List.map_append, List.map_map, hsinks]
  by_cases hzero : s.sinks = 0 <;> simp [hzero, bridge]

/-! ### After the last sink -/

/-- Where no sink is left no delegate is left to be asked for. -/
theorem delegate_of_sinks_eq_zero (s : Session) (h : s.sinks = 0) (n : Option Nat) :
    ∃ reply, s.delegate n = .error reply := by
  obtain ⟨-, hheld, -⟩ := s.sinks_eq_zero_iff.mp h
  cases hd : s.delegate n with
  | error reply => exact ⟨reply, rfl⟩
  | ok d =>
    have hmem := s.mem_submitted_of_delegate n d hd
    cases hh : s.handle with
    | true => simp [held, hh] at hheld; simp [hheld] at hmem
    | false => simp [delegate, delegates?, hh] at hd

/-- Where no sink is left no copy is left either. -/
theorem copy_of_sinks_eq_zero (s : Session) (h : s.sinks = 0) (slot : Nat) :
    s.copies[slot]?.join = none := by
  obtain ⟨-, -, hcopies⟩ := s.sinks_eq_zero_iff.mp h
  exact copy_eq_none fun d hd => hcopies d (List.mem_of_getElem? hd)

/-- A sink is a clone of another: where none is left, none is made. -/
theorem madeBy_of_sinks_eq_zero (s : Session) (h : s.sinks = 0) (t : SessionTurn) :
    s.madeBy t = 0 := by
  cases t with
  | refusal reason => rfl
  | operation a =>
    cases a with
    | submit kind => simp [madeBy, (s.sinks_eq_zero_iff.mp h).1]
    | copy n =>
      obtain ⟨reply, hreply⟩ := s.delegate_of_sinks_eq_zero h n
      simp [madeBy, hreply, Except.isOk, Except.toBool]
    | onCopy slot a => cases a <;> simp [madeBy, s.copy_of_sinks_eq_zero h slot]
    | callback n callback => rfl
    | stream slot a => rfl
    | dropController => rfl
    | dropHandle => rfl

/-- The last sink is gone for good. -/
theorem sinks_turn_eq_zero (s : Session) (h : s.sinks = 0) (t : SessionTurn) :
    (s.turn t).sinks = 0 := by
  have hbalance := s.sinks_balance t
  rw [h, s.madeBy_of_sinks_eq_zero h t] at hbalance
  omega

/-- Where no sink is left, only operations on streams reach the queue. -/
theorem takenBy_append_queue (s : Session) (h : s.sinks = 0) (t : SessionTurn) :
    s.takenBy t ++ (s.turn t).channel.queue = s.channel.queue := by
  cases t with
  | refusal reason => rfl
  | operation a =>
    rw [takenBy, turn]
    cases a with
    | submit kind => rw [next, step, submit, (s.sinks_eq_zero_iff.mp h).1]; rfl
    | callback n callback =>
      obtain ⟨reply, hreply⟩ := s.delegate_of_sinks_eq_zero h n
      rw [next, step, hreply]
      rfl
    | copy n =>
      obtain ⟨reply, hreply⟩ := s.delegate_of_sinks_eq_zero h n
      rw [next, step, hreply]
      rfl
    | onCopy slot a =>
      rw [next, step, copyStep]
      split
      · rename_i d hd
        have hnone := s.copy_of_sinks_eq_zero h slot
        rw [hd] at hnone
        cases hnone
      · rfl
    | stream slot a => exact Channel.received_append_queue s.hasSinks slot a s.channel
    | dropController => rfl
    | dropHandle => rfl

/-- **After the last sink.**  Whatever turns follow, no sink is made any more, and what they take is
    the front of what was queued. -/
theorem after_last_sink (s : Session) (h : s.sinks = 0) (turns : List SessionTurn) :
    (s.after turns).sinks = 0 ∧
      s.taken turns ++ (s.after turns).channel.queue = s.channel.queue := by
  induction turns generalizing s with
  | nil => exact ⟨h, rfl⟩
  | cons t rest ih =>
    obtain ⟨hzero, hqueue⟩ := ih (s.turn t) (s.sinks_turn_eq_zero h t)
    refine ⟨hzero, ?_⟩
    rw [taken, Trace.collect_cons, List.append_assoc, ← s.takenBy_append_queue h t]
    exact congrArg (s.takenBy t ++ ·) hqueue

end Session
end DriverExtension
