import DriverExtension.Proofs.Bridge.Channel
import DriverExtension.Proofs.Lifecycle.Submissions

namespace DriverExtension

open Log

/-!
# Where the events of a session come from

Events reach the queue of a session only through callbacks, and leave it only through streams.

* `Manager.submit_channel` — what a manager that calls back at once puts into the queue;
* `Session.emitted`, `Session.received` — what the callbacks of a run put into the queue and what
  its stream operations take out, both in order;
* `Session.received_append_queue` — these two and the queue are in balance at every moment;
* `Session.StemsFrom` — an event, by its place among all that were emitted, is traced back to one
  callback on the delegate of a request that had been accepted;
* `Session.event_provenance` — every event that was received or is queued stems from such a
  callback, and a wait for a request is answered by an event of its own delegate.
-/

/-- Whether a manager makes no callbacks while it submits. -/
def Manager.isQuiet : Manager → Bool
  | .scripted .. => false
  | _ => true

/-- A quiet manager leaves the channel alone and stays quiet. -/
theorem Manager.submit_of_isQuiet (m : Manager) (hm : m.isQuiet = true) (d : Delegate)
    (c : Channel) : (m.submit d c).2.2.1 = c ∧ (m.submit d c).2.1.isQuiet = true := by
  cases m with
  | recorder refusal ds => cases refusal <;> exact ⟨rfl, rfl⟩
  | platform => exact ⟨rfl, rfl⟩
  | scripted script refuses => cases hm

namespace Delegate

/-- Every event of a delegate carries its request. -/
theorem request_event (d : Delegate) (callback : Callback) :
    (d.event callback).request = d.request := by
  cases callback <;> rfl

/-- The action in an event is the one that the policy of the delegate dictates. -/
theorem action_of_event (d : Delegate) (callback : Callback) (r : Request)
    (existing replacement : Bundle) (action : ReplacementAction)
    (h : d.event callback = .replacementNeeded r existing replacement action) :
    action = d.policy.decide existing replacement := by
  cases callback with
  | replacementNeeded existing' replacement' => cases h; rfl
  | approvalNeeded => cases h
  | finished result => cases h
  | failed failure => cases h

/-- A callback puts its event at the end of the queue if somebody listens. -/
theorem queue_call (d : Delegate) (callback : Callback) (c : Channel) :
    (d.call callback c).2.1.queue
      = c.queue ++ if c.isOpen then [d.event callback] else [] := by
  unfold call emit Channel.send
  cases c.isOpen with
  | true => rfl
  | false => exact (List.append_nil c.queue).symm

/-- As long as somebody listens, a callback does nothing but put its event at the end of the
    queue. -/
theorem call_of_isOpen (d : Delegate) (callback : Callback) (c : Channel)
    (h : c.isOpen = true) :
    (d.call callback c).2 = ({ c with queue := c.queue ++ [d.event callback] }, []) := by
  simp [call, emit, Channel.send, h]

end Delegate

namespace Manager

/-- The events that a manager puts into the stream while it takes on a request. -/
def made (m : Manager) (d : Delegate) : List Event :=
  match m with
  | .scripted script _ => script.map d.event
  | _ => []

/-- As long as somebody listens, callbacks put their events at the end of the queue, in order. -/
theorem perform_of_isOpen (d : Delegate) (script : List Callback) (c : Channel)
    (h : c.isOpen = true) :
    perform d script c = ({ c with queue := c.queue ++ script.map d.event }, []) := by
  induction script generalizing c with
  | nil => simp [perform]
  | cons callback rest ih =>
    have hrest := ih { c with queue := c.queue ++ [d.event callback] } h
    simp [perform, d.call_of_isOpen callback c h, hrest]

/-- A submission changes the channel by the events that the manager makes. -/
theorem submit_channel (m : Manager) (d : Delegate) (c : Channel) (h : c.isOpen = true) :
    (m.submit d c).2.2.1 = { c with queue := c.queue ++ m.made d } := by
  cases m with
  | recorder refusal ds => cases refusal <;> simp [submit, made]
  | platform => simp [submit, made]
  | scripted script refuses => simp [submit, made, perform_of_isOpen d script c h]

end Manager

namespace Session

/-! ### Observations of a run -/

/-- The delegate that an operation calls back on, and the callback. -/
def callback? (s : Session) : SessionStep → Option (Delegate × Callback)
  | .callback n callback => (s.delegate n).toOption.map (·, callback)
  | .onCopy slot (.callback callback) => s.copies[slot]?.join.map (·, callback)
  | _ => none

/-- The event that an operation puts into the queue: that of its callback, if somebody listens. -/
def emittedBy (s : Session) (a : SessionStep) : List Event :=
  if s.channel.isOpen then (s.callback? a).toList.map fun (d, callback) => d.event callback else []

/-- The events that an operation takes through a stream. -/
def receivedBy (s : Session) : SessionStep → List Event
  | .stream slot a => s.channel.received s.hasSinks slot a
  | _ => []

/-- The events that the callbacks of a run put into the queue, in order. -/
def emitted (s : Session) (steps : List SessionStep) : List Event :=
  Trace.collect next emittedBy s steps

/-- The events that a run received through all streams, in order. -/
def received (s : Session) (steps : List SessionStep) : List Event :=
  Trace.collect next receivedBy s steps

/-! ### Balance -/

/-- A session whose manager is quiet keeps a quiet manager. -/
theorem isQuiet_next (s : Session) (a : SessionStep) (hm : s.manager.isQuiet = true) :
    (s.next a).manager.isQuiet = true := by
  cases ha : a.kind? with
  | none => rwa [(next_frame s a ha).1]
  | some kind =>
    rw [SessionStep.eq_submit_of_kind? a kind ha, next, step, submit]
    cases s.controller with
    | none => exact hm
    | some c => exact (s.manager.submit_of_isQuiet hm _ _).2

/-- **Balance of an operation.** -/
theorem receivedBy_append_queue (s : Session) (a : SessionStep) (hm : s.manager.isQuiet = true) :
    s.receivedBy a ++ (s.next a).channel.queue = s.channel.queue ++ s.emittedBy a := by
  have hnone : s.callback? a = none → s.channel.queue ++ s.emittedBy a = s.channel.queue := by
    intro h
    rw [emittedBy, h, Option.toList_none, List.map_nil, ite_self, List.append_nil]
  cases a with
  | submit kind =>
    -- a manager that called back while it submits would put events into the queue
    rw [hnone rfl, next, step, submit]
    cases s.controller with
    | none => rfl
    | some c => exact congrArg Channel.queue (s.manager.submit_of_isQuiet hm _ _).1
  | callback n callback =>
    cases hd : s.delegate n with
    | error reply =>
      have hcall : s.callback? (.callback n callback) = none := by rw [callback?, hd]; rfl
      rw [hnone hcall, next, step, hd]
      rfl
    | ok d =>
      have hcall : s.callback? (.callback n callback) = some (d, callback) := by
        rw [callback?, hd]; rfl
      rw [emittedBy, hcall, next, step, hd]
      exact d.queue_call callback s.channel
  | copy n =>
    rw [hnone rfl, next, step]
    cases s.delegate n <;> rfl
  | onCopy slot a =>
    cases a with
    | clone =>
      rw [hnone rfl, next, step, copyStep]
      split <;> rfl
    | drop =>
      rw [hnone rfl, next, step, copyStep]
      split <;> rfl
    | callback callback =>
      rw [next, step, copyStep]
      split
      · rename_i d hd
        have hcall : s.callback? (.onCopy slot (.callback callback)) = some (d, callback) := by
          rw [callback?, hd]; rfl
        rw [emittedBy, hcall]
        exact d.queue_call callback s.channel
      · rename_i hd
        have hcall : s.callback? (.onCopy slot (.callback callback)) = none := by
          rw [callback?]
          cases hslot : s.copies[slot]? with
          | none => rfl
          | some copy =>
            cases copy with
            | none => rfl
            | some d => exact absurd hslot (hd d)
        rw [hnone hcall]
        rfl
  | stream slot a =>
    rw [hnone rfl]
    exact Channel.received_append_queue s.hasSinks slot a s.channel
  | dropController => rw [hnone rfl]; rfl
  | dropHandle => rw [hnone rfl]; rfl

/-- **Balance of a run.**  What a run received and what is queued after it are what was queued
    before it and what the callbacks put into the queue. -/
theorem received_append_queue (s : Session) (hm : s.manager.isQuiet = true)
    (steps : List SessionStep) :
    s.received steps ++ (s.run steps).channel.queue = s.channel.queue ++ s.emitted steps :=
  Trace.collect_conserves next (·.channel.queue) receivedBy emittedBy (·.manager.isQuiet = true)
    isQuiet_next receivedBy_append_queue s hm steps

/-! ### Origins -/

/-- An operation puts at most one event into the queue, that of its callback. -/
theorem getElem?_emittedBy (s : Session) (a : SessionStep) (k : Nat) (e : Event)
    (h : (s.emittedBy a)[k]? = some e) :
    k = 0 ∧ s.channel.isOpen = true ∧
      ∃ d callback, s.callback? a = some (d, callback) ∧ e = d.event callback := by
  rw [emittedBy] at h
  cases hopen : s.channel.isOpen with
  | false => rw [hopen, if_neg Bool.false_ne_true, List.getElem?_nil] at h; cases h
  | true =>
    rw [hopen, if_pos rfl] at h
    cases hcall : s.callback? a with
    | none => rw [hcall, Option.toList_none, List.map_nil, List.getElem?_nil] at h; cases h
    | some p =>
      obtain ⟨d, callback⟩ := p
      rw [hcall, Option.toList_some, List.map_singleton, List.getElem?_singleton] at h
      by_cases hk : k = 0
      · rw [if_pos hk] at h
        exact ⟨hk, rfl, d, callback, rfl, (Option.some.inj h).symm⟩
      · rw [if_neg hk] at h
        cases h

variable {identifier : Identifier} {policy : ReplacementPolicy} {kinds : List RequestKind}
  {s : Session}

/-- Callbacks are made on recorded delegates, or on copies of them. -/
theorem mem_submitted_of_callback? (hcopies : ∀ d, some d ∈ s.copies → d ∈ s.manager.submitted)
    {a : SessionStep} {d : Delegate} {callback : Callback}
    (hcall : s.callback? a = some (d, callback)) : d ∈ s.manager.submitted := by
  cases a with
  | callback n c =>
    rw [callback?] at hcall
    cases hd : s.delegate n with
    | error reply => rw [hd] at hcall; cases hcall
    | ok x =>
      rw [hd] at hcall
      cases hcall
      exact mem_submitted_of_delegate s n d hd
  | onCopy slot a =>
    cases a with
    | callback c =>
      rw [callback?] at hcall
      obtain ⟨x, hx, hpair⟩ := Option.map_eq_some_iff.mp hcall
      obtain rfl : x = d := congrArg Prod.fst hpair
      exact hcopies x (List.mem_of_getElem? (Option.join_eq_some_iff.mp hx))
    | clone => cases hcall
    | drop => cases hcall
  | submit kind => cases hcall
  | copy n => cases hcall
  | stream slot a => cases hcall
  | dropController => cases hcall
  | dropHandle => cases hcall

/-- The event `e` is the `i`-th that a run emitted, counted from zero: the run called back on the
    delegate of the request `r`, after `r` had been accepted and `i` events had been emitted, and
    somebody listened. -/
def StemsFrom (start : Session) (policy : ReplacementPolicy) (steps : List SessionStep) (i : Nat)
    (e : Event) (r : Request) : Prop :=
  ∃ pre a post callback, steps = pre ++ a :: post ∧ r ∈ start.accepted pre ∧
    (start.run pre).callback? a = some (⟨r, policy⟩, callback) ∧
    (start.run pre).channel.isOpen = true ∧ (start.emitted pre).length = i ∧
    e = Delegate.event ⟨r, policy⟩ callback

/-- Every event that a run emitted stems from a callback on the delegate of an accepted request. -/
theorem stemsFrom_of_emitted (identifier : Identifier) (policy : ReplacementPolicy)
    (steps : List SessionStep) (i : Nat) (e : Event)
    (h : ((Session.new identifier policy (.recorder none [])).emitted steps)[i]? = some e) :
    ∃ r, StemsFrom (Session.new identifier policy (.recorder none [])) policy steps i e r := by
  obtain ⟨pre, a, post, hsteps, hle, hout⟩ := Trace.collect_origin _ _ _ steps i e h
  -- the callback was made on a delegate that had been recorded by then
  obtain ⟨hzero, hopen, d, callback, hcall, rfl⟩ := getElem?_emittedBy _ a _ e hout
  have hmem := mem_submitted_of_callback? (recorded_run identifier policy pre).mem_submitted hcall
  rw [submitted_eq_accepted] at hmem
  obtain ⟨r, hr, rfl⟩ := List.mem_map.mp hmem
  refine ⟨r, pre, a, post, callback, hsteps, hr, hcall, hopen, ?_, rfl⟩
  exact Nat.le_antisymm hle (Nat.sub_eq_zero_iff_le.mp hzero)

/-- An event carries the request that it stems from, and answers with its policy. -/
theorem StemsFrom.request_eq {start : Session} {steps : List SessionStep} {i : Nat} {e : Event}
    {r : Request} (h : StemsFrom start policy steps i e r) :
    e.request = r ∧ ∀ r' existing replacement action,
      e = .replacementNeeded r' existing replacement action →
        action = policy.decide existing replacement := by
  obtain ⟨pre, a, post, callback, -, -, -, -, -, rfl⟩ := h
  refine ⟨Delegate.request_event _ callback, ?_⟩
  intro r' existing replacement action he
  exact Delegate.action_of_event _ callback r' existing replacement action he

/-! ### Correlation -/

/-- A request that an event stems from was accepted by the run. -/
theorem StemsFrom.mem_accepted {start : Session} {steps : List SessionStep} {i : Nat} {e : Event}
    {r : Request} (h : StemsFrom start policy steps i e r) : r ∈ start.accepted steps := by
  obtain ⟨pre, a, post, -, rfl, hr, -⟩ := h
  rw [accepted, returned, Trace.collect_append, List.filterMap_append]
  exact List.mem_append_left _ hr

/-- Of at most as many requests as there are numbers, each has a number of its own. -/
theorem eq_of_id_eq (identifier : Identifier) (kinds : List RequestKind)
    (hlen : kinds.length ≤ UInt64.size) (a b : Request) (ha : a ∈ issued identifier kinds)
    (hb : b ∈ issued identifier kinds) (hid : a.id = b.id) : a = b := by
  obtain ⟨j, hj⟩ := List.mem_iff_getElem?.mp ha
  obtain ⟨k, hk⟩ := List.mem_iff_getElem?.mp hb
  -- the places are numbered from one, and the last may carry the number zero
  have hround : ∀ (k : Nat) (r : Request),
      (issued identifier kinds)[k]? = some r → k < UInt64.size := by
    intro k r hr
    have hlt := (List.getElem?_eq_some_iff.mp hr).1
    rw [length_issued] at hlt
    omega
  have hj64 := hround j a hj
  have hk64 := hround k b hk
  rw [id_of_getElem?_issued identifier kinds j a hj, id_of_getElem?_issued identifier kinds k b hk,
    RequestId.nth_eq_nth_iff] at hid
  obtain rfl : j = k := by
    unfold UInt64.size at hid hj64 hk64
    omega
  exact Option.some.inj (hj.symm.trans hk)

/-- A wait is answered by a terminal event of its number that was queued. -/
theorem of_wait_answered (s : Session) (slot : Nat) (id : RequestId) (e : Event)
    (h : (s.step (.stream slot (.wait id))).1 = .stream (.received (.event e))) :
    e ∈ s.channel.queue ∧ e.isTerminal = true ∧ e.request.id = id := by
  have hreply : (s.channel.stream s.hasSinks slot (.wait id)).1 = .received (.event e) :=
    SessionReply.stream.inj h
  cases hs : s.channel.hasStream slot with
  | false =>
    rw [Channel.stream_of_not_hasStream _ slot _ _ hs] at hreply
    cases hreply
  | true =>
    unfold Channel.stream at hreply
    rw [hs] at hreply
    have hpoll := Wait.poll_eq_event s.hasSinks id s.channel.queue e
      (Reply.received.inj hreply)
    refine ⟨?_, (Wait.settles_iff id e).mp hpoll.1⟩
    -- what the loop took was at the front of the queue
    rw [← Wait.taken_append_left s.hasSinks id s.channel.queue]
    exact List.mem_append_left _ (hpoll.2.subset List.mem_cons_self)

/-- What a stream handed over was asked of a stream. -/
theorem eq_stream_of_reply (s : Session) (a : SessionStep) (reply : Reply)
    (h : (s.step a).1 = .stream reply) : ∃ slot b, a = .stream slot b := by
  by_cases hstream : ∃ slot b, a = .stream slot b
  · exact hstream
  · cases hkind : a.kind? with
    | none =>
      have hplain := isPlain_step s a hkind fun slot b hb => hstream ⟨slot, b, hb⟩
      rw [h] at hplain
      cases hplain
    | some kind =>
      rw [SessionStep.eq_submit_of_kind? a kind hkind, step, submit] at h
      cases hc : s.controller with
      | none => rw [hc] at h; cases h
      | some c => rw [hc] at h; cases h

/-- Every event that a stream operation of a run answered was received by the run. -/
theorem mem_received_of_reply (s : Session) (steps : List SessionStep) (reply : Reply)
    (h : .stream reply ∈ s.replies steps) (e : Event) (he : e ∈ reply.events) :
    e ∈ s.received steps := by
  induction steps generalizing s with
  | nil => cases h
  | cons a rest ih =>
    rw [replies, Trace.collect_cons, List.singleton_append] at h
    rw [received, Trace.collect_cons]
    rcases List.mem_cons.mp h with h | h
    · obtain ⟨slot, b, rfl⟩ := eq_stream_of_reply s a reply h.symm
      obtain rfl := SessionReply.stream.inj h
      have hsuffix := Channel.events_suffix_received s.hasSinks slot b s.channel
      exact List.mem_append_left _ (hsuffix.subset he)
    · exact List.mem_append_right _ (ih (s.next a) h)

/-- **Provenance.**  For every run of a session over a recorder that refuses nothing: what all
    streams received, followed by what is queued, is what the callbacks emitted, in order.  Each of
    these events stems from one callback on the delegate of a request accepted before, carries this
    request, and proposes the action that the policy dictates; and every event that a stream
    operation answered is one of them.  As long as no number was given out twice, a wait for an
    accepted request, which looks at the number only, is answered by an outcome of this very request
    from its own delegate, of which the recorder holds no other. -/
theorem event_provenance (identifier : Identifier) (policy : ReplacementPolicy)
    (steps : List SessionStep) :
    let start := Session.new identifier policy (.recorder none [])
    let s := start.run steps
    let events := start.received steps ++ s.channel.queue
    events = start.emitted steps ∧
    (∀ i e, events[i]? = some e → ∃ r, StemsFrom start policy steps i e r ∧ e.request = r ∧
      ∀ r' existing replacement action, e = .replacementNeeded r' existing replacement action →
        action = policy.decide existing replacement) ∧
    (∀ reply, .stream reply ∈ start.replies steps →
      ∀ e ∈ reply.events, e ∈ start.received steps) ∧
    ((SessionStep.calls steps).length ≤ UInt64.size → ∀ slot r e, r ∈ start.accepted steps →
      (s.step (.stream slot (.wait r.id))).1 = .stream (.received (.event e)) →
        e.request = r ∧ e.isTerminal = true ∧ (∃ i, StemsFrom start policy steps i e r) ∧
        ∀ d ∈ s.manager.submitted, d.request.id = r.id → d = ⟨r, policy⟩) := by
  intro start s events
  have hbalance : events = start.emitted steps := received_append_queue start rfl steps
  have hstems : ∀ (i : Nat) (e : Event), events[i]? = some e →
      ∃ r, StemsFrom start policy steps i e r := by
    intro i e he
    rw [hbalance] at he
    exact stemsFrom_of_emitted identifier policy steps i e he
  refine ⟨hbalance, ?_, ?_, ?_⟩
  · intro i e he
    obtain ⟨r, hr⟩ := hstems i e he
    exact ⟨r, hr, hr.request_eq⟩
  · intro reply hreply e he
    exact mem_received_of_reply start steps reply hreply e he
  · intro hlen slot r e hr hwait
    obtain ⟨hqueued, hterminal, hid⟩ := of_wait_answered s slot r.id e hwait
    have hevent : e ∈ events := List.mem_append_right (start.received steps) hqueued
    obtain ⟨i, hi⟩ := List.mem_iff_getElem?.mp hevent
    obtain ⟨r', hstem⟩ := hstems i e hi
    -- the number decides among the accepted requests, since each has a number of its own
    have huniq : ∀ r' ∈ start.accepted steps, r'.id = r.id → r' = r := by
      intro r' hr' hid'
      rw [accepted_eq_issued] at hr hr'
      exact eq_of_id_eq identifier _ hlen r' r hr' hr hid'
    obtain rfl : r' = r := huniq r' hstem.mem_accepted (hstem.request_eq.1 ▸ hid)
    refine ⟨hstem.request_eq.1, hterminal, ⟨i, hstem⟩, ?_⟩
    intro d hd hdid
    rw [submitted_eq_accepted] at hd
    obtain ⟨r, hrd, rfl⟩ := List.mem_map.mp hd
    rw [huniq r hrd hdid]

end Session
end DriverExtension
