import DriverExtension.Proofs.Lifecycle.Provenance

namespace DriverExtension

open Log

/-!
# Requests that are refused

By the time a manager refuses a request, the request has been numbered, its delegate made and its
submission logged.  Of all this only the number and the record stay.

* `Manager.Refuses` — the managers that refuse every request, and what they answer;
* `Session.records` — what the operations of a run log;
* `Session.Refused` — the invariant: nothing is recorded, copied or queued, and the controller has
  counted every attempt;
* `Session.refused_attempts` — the account of all attempts of a run.
-/

namespace Manager

/-- A manager that refuses every request, and the fault that it answers. -/
inductive Refuses : Manager → Fault → Prop
  | recorder (reason : String) : Refuses (.recorder (some reason) []) (.submission reason)
  | platform : Refuses .platform platformRefusal

/-- What a manager logs itself about a request that it refuses. -/
def excuses (m : Manager) (r : Request) : List Record :=
  match m with
  | .platform => [unavailable r]
  | _ => []

/-- What is logged about an attempt that a manager refuses. -/
def attempted (m : Manager) (r : Request) : List Record :=
  ⟨.info, lifecycleTarget,
    s!"Submitting {r.kind} request {r.id} for {r.identifier} via {m.name}"⟩ :: m.excuses r

variable {m : Manager} {fault : Fault}

/-- A refusal changes neither the manager nor the channel. -/
theorem Refuses.submit_eq (h : m.Refuses fault) (d : Delegate) (c : Channel) :
    m.submit d c = (.error fault, m, c, m.excuses d.request) := by
  cases h <;> rfl

theorem Refuses.submitted_eq (h : m.Refuses fault) : m.submitted = [] := by
  cases h <;> rfl

theorem Refuses.isQuiet (h : m.Refuses fault) : m.isQuiet = true := by
  cases h <;> rfl

end Manager

/-- Where nothing is queued, no operation on a stream logs anything. -/
theorem Channel.records_stream_of_nil (sinks : Bool) (slot : Nat) (a : StreamStep) (c : Channel)
    (h : c.queue = []) : (c.stream sinks slot a).2.2 = [] := by
  cases hs : c.hasStream slot with
  | false => rw [stream_of_not_hasStream sinks slot a c hs]
  | true =>
    unfold stream
    rw [hs, h]
    cases a <;> rfl

/-- Where nothing is queued, a wait goes on as long as there are sinks, and leaves the channel as it
    is. -/
theorem Channel.stream_wait_of_nil (sinks : Bool) (slot : Nat) (id : RequestId) (c : Channel)
    (hs : c.hasStream slot = true) (h : c.queue = []) :
    c.stream sinks slot (.wait id)
      = (.received (if sinks then .pending else .closed), c, []) := by
  obtain ⟨queue, streams⟩ := c
  obtain rfl : queue = [] := h
  unfold stream
  rw [hs]
  rfl

namespace Session

/-- What the operations of a run log, in order. -/
def records (s : Session) (steps : List SessionStep) : List Record :=
  Trace.collect next (fun s a => (s.step a).2.2) s steps

/-- Where nothing is queued, an operation that neither calls nor calls back logs nothing. -/
theorem records_step_of_nil (s : Session) (a : SessionStep) (hkind : a.kind? = none)
    (hcall : s.callback? a = none) (hqueue : s.channel.queue = []) : (s.step a).2.2 = [] := by
  cases a with
  | submit kind => cases hkind
  | callback n callback =>
    rw [step]
    cases hd : s.delegate n with
    | error reply => rfl
    | ok d =>
      rw [callback?, hd] at hcall
      cases hcall
  | copy n =>
    rw [step]
    cases s.delegate n <;> rfl
  | onCopy slot a =>
    rw [step, copyStep]
    split
    · rename_i d hd
      cases a with
      | callback callback =>
        rw [callback?, hd] at hcall
        cases hcall
      | clone => rfl
      | drop => rfl
    · rfl
  | stream slot a => exact Channel.records_stream_of_nil s.hasSinks slot a s.channel hqueue
  | dropController => rfl
  | dropHandle => rfl

/-! ### The invariant -/

/-- What holds of a session over a manager that refuses, after attempts of the given kinds: the
    manager is as it was, the controller, if it is there, has counted the attempts, and there are
    no events and no copies. -/
structure Refused (identifier : Identifier) (policy : ReplacementPolicy) (manager : Manager)
    (kinds : List RequestKind) (s : Session) : Prop where
  manager_eq : s.manager = manager
  controller_eq : ∀ c, s.controller = some c → c = ⟨identifier, policy, .nth (kinds.length + 1)⟩
  queue_eq : s.channel.queue = []
  no_copies : ∀ d, some d ∉ s.copies

/-- A new session has attempted nothing. -/
theorem refused_new (identifier : Identifier) (policy : ReplacementPolicy) (manager : Manager) :
    Refused identifier policy manager [] (new identifier policy manager) where
  manager_eq := rfl
  controller_eq := fun _ hc => (Option.some.inj hc).symm
  queue_eq := rfl
  no_copies := fun _ hd => nomatch hd

variable {identifier : Identifier} {policy : ReplacementPolicy} {manager : Manager} {fault : Fault}
  {kinds : List RequestKind} {s : Session}

/-- There is no delegate to call back on. -/
theorem Refused.callback?_eq_none (h : Refused identifier policy manager kinds s)
    (hm : manager.Refuses fault) (a : SessionStep) : s.callback? a = none := by
  rw [Option.eq_none_iff_forall_ne_some]
  rintro ⟨d, callback⟩ hcall
  have hmem := mem_submitted_of_callback? (fun d hd => absurd hd (h.no_copies d)) hcall
  rw [h.manager_eq, hm.submitted_eq] at hmem
  cases hmem

/-- The controller alone holds a sink. -/
theorem Refused.hasSinks_eq (h : Refused identifier policy manager kinds s)
    (hm : manager.Refuses fault) : s.hasSinks = s.controller.isSome := by
  have hcopies : s.copies.any Option.isSome = false := by
    rw [List.any_eq_false]
    rintro (- | d) hd
    · exact Bool.false_ne_true
    · exact absurd hd (h.no_copies d)
  rw [hasSinks, h.manager_eq, hm.submitted_eq, hcopies]
  simp

/-- An attempt is refused; it uses up its number, and changes nothing else. -/
theorem Refused.step_submit (h : Refused identifier policy manager kinds s)
    (hm : manager.Refuses fault) (kind : RequestKind) (c : Controller)
    (hc : s.controller = some c) :
    s.step (.submit kind) = (.submitted (.error fault),
      { s with controller := some { c with next := c.next.next } },
      manager.attempted ⟨c.next, kind, identifier⟩) := by
  obtain rfl := h.controller_eq c hc
  obtain rfl := h.manager_eq
  rw [s.step_submit kind _ hc, hm.submit_eq]
  rfl

/-- **Step.**  Every operation keeps the invariant, with the attempt that it makes added; it receives
    nothing, and an attempt is refused and logged under its number. -/
theorem Refused.step (h : Refused identifier policy manager kinds s) (hm : manager.Refuses fault)
    (a : SessionStep) :
    Refused identifier policy manager (kinds ++ s.calledBy a) (s.next a) ∧
    s.receivedBy a = [] ∧
    ∃ requests, issued identifier (kinds ++ s.calledBy a) = issued identifier kinds ++ requests ∧
      (s.returnedBy a = requests.map fun _ => .error fault) ∧
      (s.step a).2.2 = requests.flatMap manager.attempted := by
  -- nothing was queued, and nobody is there to emit anything
  have hquiet : s.manager.isQuiet = true := by
    rw [h.manager_eq]
    exact hm.isQuiet
  have hcall := h.callback?_eq_none hm a
  have hemitted : s.emittedBy a = [] := by
    rw [emittedBy, hcall]
    exact ite_self []
  have hbalance := s.receivedBy_append_queue a hquiet
  rw [h.queue_eq, hemitted, List.append_nil, List.append_eq_nil_iff] at hbalance
  obtain ⟨hreceived, hqueue⟩ := hbalance
  cases ha : a.kind? with
  | none =>
    obtain ⟨hmanager, -, hcontroller, hcopies⟩ := next_frame s a ha
    rw [calledBy_of_kind? s a ha, returnedBy_of_kind? s a ha, List.append_nil]
    refine ⟨⟨hmanager.trans h.manager_eq, ?_, hqueue, ?_⟩, hreceived, [],
      (List.append_nil _).symm, rfl, ?_⟩
    · intro c hc
      exact h.controller_eq c (hcontroller c hc)
    · intro d hd
      rcases hcopies d hd with hd | hd
      · exact h.no_copies d hd
      · rw [h.manager_eq, hm.submitted_eq] at hd
        cases hd
    · exact records_step_of_nil s a ha hcall h.queue_eq
  | some kind =>
    obtain rfl : a = .submit kind := SessionStep.eq_submit_of_kind? a kind ha
    cases hc : s.controller with
    | none =>
      -- nobody to call: nothing is attempted
      have hstep : s.step (.submit kind) = (.noController, s, []) := by
        rw [Session.step, submit, hc]
      have hcalled : s.calledBy (.submit kind) = [] := by
        rw [calledBy, hc]
        rfl
      rw [hcalled, returnedBy, Session.next, hstep, List.append_nil]
      exact ⟨h, hreceived, [], (List.append_nil _).symm, rfl, rfl⟩
    | some c =>
      have hstep := h.step_submit hm kind c hc
      have hcalled : s.calledBy (.submit kind) = [kind] := by
        rw [calledBy, hc]
        rfl
      obtain rfl := h.controller_eq c hc
      rw [hcalled, issued_concat, returnedBy, hstep]
      refine ⟨⟨?_, ?_, hqueue, ?_⟩, hreceived, _, rfl, rfl, ?_⟩
      · rw [Session.next, hstep]
        exact h.manager_eq
      · intro c' hc'
        rw [Session.next, hstep] at hc'
        rw [← Option.some.inj hc', List.length_append, List.length_singleton,
          ← RequestId.next_nth (kinds.length + 1)]
      · rw [Session.next, hstep]
        exact h.no_copies
      · rw [List.flatMap_singleton]

/-- **Run.**  A run keeps the invariant, with the attempts that it makes added; it receives nothing,
    and all that it logs are its attempts, each under its number and refused. -/
theorem Refused.run (h : Refused identifier policy manager kinds s) (hm : manager.Refuses fault)
    (steps : List SessionStep) :
    Refused identifier policy manager (kinds ++ s.called steps) (s.run steps) ∧
    s.received steps = [] ∧
    ∃ requests,
      issued identifier (kinds ++ s.called steps) = issued identifier kinds ++ requests ∧
      (s.returned steps = requests.map fun _ => .error fault) ∧
      s.records steps = requests.flatMap manager.attempted := by
  -- on the operations, for any attempts made before: each step extends the kinds at their end
  induction steps generalizing s kinds with
  | nil =>
    rw [called, Trace.collect_nil, List.append_nil]
    exact ⟨h, rfl, [], (List.append_nil _).symm, rfl, rfl⟩
  | cons a rest ih =>
    obtain ⟨hstep, hreceived, first, hfirst, hreturned, hlogged⟩ := h.step hm a
    obtain ⟨hrun, hnothing, others, hothers, hrest, hlater⟩ := ih hstep
    have hcalled : kinds ++ s.called (a :: rest)
        = kinds ++ s.calledBy a ++ (s.next a).called rest := by
      rw [called, Trace.collect_cons, List.append_assoc]
      rfl
    rw [hcalled]
    refine ⟨hrun, ?_, first ++ others, ?_, ?_, ?_⟩
    · rw [received, Trace.collect_cons, hreceived]
      exact hnothing
    · rw [hothers, hfirst, List.append_assoc]
    · rw [returned, Trace.collect_cons, hreturned, List.map_append]
      exact congrArg _ hrest
    · rw [records, Trace.collect_cons, hlogged, List.flatMap_append]
      exact congrArg _ hlater

/-- **Refused attempts.**  Take any run of a session over a manager that refuses everything, with
    `attempts` the requests that its calls asked for, the `k`-th of them with the number `k` modulo
    `2 ^ 64`.  Every call returns the fault of the manager.  All that the run logs is one attempt
    after the other, each under its number.  The manager is as it was and holds no delegate; no
    event is queued or was received, and no operation on a stream handed one over.  A wait for
    whatever number goes on as long as the controller is there, and answers no event after that.
    One more attempt is refused too, uses up the next number and changes nothing else. -/
theorem refused_attempts (identifier : Identifier) (policy : ReplacementPolicy) (manager : Manager)
    (fault : Fault) (hm : manager.Refuses fault) (steps : List SessionStep) :
    let start := new identifier policy manager
    let s := start.run steps
    let calls := SessionStep.calls steps
    let attempts := issued identifier calls
    (∀ k kind, calls[k]? = some kind → ∃ r, attempts[k]? = some r ∧
      r.id.val.toNat = (k + 1) % UInt64.size ∧ r.kind = kind ∧ r.identifier = identifier) ∧
    attempts.length = calls.length ∧
    (start.returned steps = attempts.map fun _ => .error fault) ∧
    start.records steps = attempts.flatMap manager.attempted ∧
    s.manager = manager ∧ s.manager.submitted = [] ∧
    s.channel.queue = [] ∧ start.received steps = [] ∧
    (∀ reply, .stream reply ∈ start.replies steps → reply.events = []) ∧
    (∀ slot id, s.channel.hasStream slot = true →
      s.step (.stream slot (.wait id))
        = (.stream (.received (if s.controller.isSome then .pending else .closed)), s, [])) ∧
    (∀ c, s.controller = some c → c.next.val.toNat = (calls.length + 1) % UInt64.size ∧
      ∀ kind, s.step (.submit kind) = (.submitted (.error fault),
        { s with controller := some { c with next := c.next.next } },
        manager.attempted ⟨c.next, kind, identifier⟩)) := by
  intro start s calls attempts
  have hcalled : start.called steps = calls := start.called_eq_calls steps
  obtain ⟨h, hreceived, requests, hrequests, hreturned, hlogged⟩ :=
    (refused_new identifier policy manager).run hm steps
  rw [List.nil_append] at h hrequests
  -- nothing had been issued before, so the requests of the run are all the attempts
  obtain rfl : attempts = requests := by
    have hissued : attempts = issued identifier [] ++ requests := by
      rw [← hrequests]
      exact congrArg (issued identifier) hcalled.symm
    exact hissued
  have hmanager : s.manager = manager := h.manager_eq
  refine ⟨?_, length_issued identifier calls, hreturned, hlogged, hmanager, ?_, h.queue_eq,
    hreceived, ?_, ?_, ?_⟩
  · intro k kind hkind
    refine ⟨⟨.nth (k + 1), kind, identifier⟩, ?_, RequestId.toNat_nth (k + 1), rfl, rfl⟩
    show (issued identifier calls)[k]? = _
    rw [getElem?_issued, hkind]
    rfl
  · rw [hmanager, hm.submitted_eq]
  · intro reply hreply
    rw [List.eq_nil_iff_forall_not_mem]
    intro e he
    have hmem := mem_received_of_reply start steps reply hreply e he
    rw [hreceived] at hmem
    cases hmem
  · intro slot id hslot
    rw [Session.step, Channel.stream_wait_of_nil _ slot id _ hslot h.queue_eq, h.hasSinks_eq hm]
  · intro c hc
    refine ⟨?_, fun kind => h.step_submit hm kind c hc⟩
    rw [h.controller_eq c hc, hcalled]
    exact RequestId.toNat_nth (calls.length + 1)

/-- A recorder that refuses for want of an entitlement: two attempts with a wait between them, and
    another stream, leave two records. -/
theorem refused_attempts_entitlement :
    let manager : Manager := .recorder (some "no entitlement") []
    let steps : List SessionStep :=
      [.submit .activate, .stream 0 .clone, .stream 1 (.wait ⟨1⟩), .submit .deactivate]
    let start := new .standard .replace manager
    manager.Refuses (.submission "no entitlement") ∧
    start.returned steps
      = [.error (.submission "no entitlement"), .error (.submission "no entitlement")] ∧
    start.records steps
      = manager.attempted ⟨⟨1⟩, .activate, .standard⟩
        ++ manager.attempted ⟨⟨2⟩, .deactivate, .standard⟩ ∧
    (start.run steps).step (.stream 1 (.wait ⟨2⟩))
      = (.stream (.received .pending), start.run steps, []) := by
  intro manager steps start
  have hm : manager.Refuses (.submission "no entitlement") := .recorder "no entitlement"
  obtain ⟨-, -, hreturned, hlogged, -, -, -, -, -, hwait, -⟩ :=
    refused_attempts .standard .replace manager _ hm steps
  exact ⟨hm, hreturned, hlogged, hwait 1 ⟨2⟩ rfl⟩

end Session
end DriverExtension
