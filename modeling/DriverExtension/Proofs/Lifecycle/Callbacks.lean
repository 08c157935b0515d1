import DriverExtension.Proofs.Lifecycle.Sinks

namespace DriverExtension

open Log

/-!
# What a callback does

The system calls back on recorded delegates, or on copies of them, as often as it likes and in any
order.  Each time it gets the same answer, and one trace is left: an event if somebody listens, and
a record otherwise.

* `Callback.Owed` — the answer and the event that are owed to a callback, whatever was called before;
* `Session.step_of_callback?` — a callback does the same on a delegate and on a copy of it;
* `Session.Faithful` — the invariant: all delegates bear the policy of the controller;
* `Session.call_of_isOpen`, `Session.call_of_not_isOpen` — the one trace of a callback;
* `Session.callback_effect` — the account of a callback at any moment of a run.
-/

/-- The answer of a policy, whatever bundles it is about. -/
def ReplacementPolicy.action : ReplacementPolicy → ReplacementAction
  | .replace => .replace
  | .cancel => .cancel

theorem ReplacementPolicy.decide_eq (p : ReplacementPolicy) (existing replacement : Bundle) :
    p.decide existing replacement = p.action := by
  cases p <;> rfl

/-- What is owed to a callback about a request under a policy: the answer to the system, and the
    event that carries the request, the arguments of the callback, and this answer. -/
inductive Callback.Owed (r : Request) (policy : ReplacementPolicy) :
    Callback → Option ReplacementAction → Event → Prop
  | replacementNeeded (existing replacement : Bundle) :
      Owed r policy (.replacementNeeded existing replacement) (some policy.action)
        (.replacementNeeded r existing replacement policy.action)
  | approvalNeeded : Owed r policy .approvalNeeded none (.approvalNeeded r)
  | finished (result : Completion) : Owed r policy (.finished result) none (.finished r result)
  | failed (failure : Failure) : Owed r policy (.failed failure) none (.failed r failure)

/-- A delegate pays what it owes. -/
theorem Delegate.owed (d : Delegate) (callback : Callback) :
    callback.Owed d.request d.policy (d.answer callback) (d.event callback) := by
  cases callback with
  | replacementNeeded existing replacement =>
    rw [answer, event, ReplacementPolicy.decide_eq]
    exact .replacementNeeded existing replacement
  | approvalNeeded => exact .approvalNeeded
  | finished result => exact .finished result
  | failed failure => exact .failed failure

namespace Session

/-! ### One callback -/

/-- An operation that calls back does nothing else. -/
theorem step_of_callback? {s : Session} {a : SessionStep} {d : Delegate} {callback : Callback}
    (h : s.callback? a = some (d, callback)) : s.step a = s.call d callback := by
  cases a with
  | callback n c =>
    rw [callback?] at h
    rw [step]
    cases hd : s.delegate n with
    | error reply => rw [hd] at h; cases h
    | ok x =>
      rw [hd] at h
      cases h
      rfl
  | onCopy slot a =>
    cases a with
    | callback c =>
      rw [callback?] at h
      obtain ⟨x, hx, hpair⟩ := Option.map_eq_some_iff.mp h
      cases hpair
      rw [step, copyStep, Option.join_eq_some_iff.mp hx]
    | clone => cases h
    | drop => cases h
  | submit kind => cases h
  | copy n => cases h
  | stream slot a => cases h
  | dropController => cases h
  | dropHandle => cases h

/-- Every recorded delegate can be called back on as long as the recorder can be asked for it. -/
theorem callback?_of_submitted {s : Session} (hhandle : s.handle = true) {n : Nat} {d : Delegate}
    (hd : s.manager.submitted[n]? = some d) (callback : Callback) :
    s.callback? (.callback (some n) callback) = some (d, callback) := by
  simp [callback?, delegate, delegates?, hhandle, hd, Except.toOption]

/-- If somebody listens, the one trace of a callback is its event at the end of the queue. -/
theorem call_of_isOpen (s : Session) (d : Delegate) (callback : Callback)
    (h : s.channel.isOpen = true) :
    s.call d callback = (.answered (d.answer callback),
      { s with channel := { s.channel with queue := s.channel.queue ++ [d.event callback] } },
      []) := by
  have hcall := d.call_of_isOpen callback s.channel h
  rw [call]
  exact congrArg (fun r => (SessionReply.answered (d.answer callback),
    { s with channel := r.1 }, r.2)) hcall

/-- If nobody listens, the one trace of a callback is a record. -/
theorem call_of_not_isOpen (s : Session) (d : Delegate) (callback : Callback)
    (h : s.channel.isOpen = false) :
    s.call d callback = (.answered (d.answer callback), s, [d.dropped .sendClosed]) := by
  simp [call, Delegate.call, Delegate.emit, Channel.send, h]

/-! ### The invariant -/

/-- The policy of a controller goes with it, and with every delegate that is recorded or copied. -/
structure Faithful (policy : ReplacementPolicy) (s : Session) : Prop where
  policy_controller : ∀ c, s.controller = some c → c.policy = policy
  policy_submitted : ∀ d ∈ s.manager.submitted, d.policy = policy
  mem_submitted : ∀ d, some d ∈ s.copies → d ∈ s.manager.submitted

/-- A new session over a manager that has recorded nothing is faithful to its policy. -/
theorem faithful_new (identifier : Identifier) (policy : ReplacementPolicy) {manager : Manager}
    (hnew : manager.submitted = []) : Faithful policy (new identifier policy manager) where
  policy_controller := fun c hc => by rw [← Option.some.inj hc]; rfl
  policy_submitted := fun d hd => by
    have hnone : d ∈ manager.submitted := hd
    rw [hnew] at hnone
    cases hnone
  mem_submitted := fun _ hd => nomatch hd

variable {policy : ReplacementPolicy} {s : Session}

/-- **Step.**  Whatever is done, a session stays faithful to its policy. -/
theorem Faithful.next (h : Faithful policy s) (a : SessionStep) : Faithful policy (s.next a) := by
  cases ha : a.kind? with
  | none =>
    obtain ⟨hmanager, -, hcontroller, hcopies⟩ := next_frame s a ha
    refine ⟨fun c hc => h.policy_controller c (hcontroller c hc), ?_, ?_⟩
    · rw [hmanager]
      exact h.policy_submitted
    · intro d hd
      rw [hmanager]
      rcases hcopies d hd with hd | hd
      · exact h.mem_submitted d hd
      · exact hd
  | some kind =>
    obtain rfl : a = .submit kind := SessionStep.eq_submit_of_kind? a kind ha
    cases hc : s.controller with
    | none =>
      have hnext : s.next (.submit kind) = s := by
        rw [Session.next, step, submit, hc]
      rw [hnext]
      exact h
    | some c =>
      -- what is recorded now was recorded before, or is the delegate of the new request
      have hpolicy : c.policy = policy := h.policy_controller c hc
      have hsubmitted := s.manager.submitted_submit ⟨c.request kind, c.policy⟩ s.channel
      rw [Session.next, s.step_submit kind c hc]
      refine ⟨?_, ?_, ?_⟩
      · intro c' hc'
        rw [← Option.some.inj hc']
        exact hpolicy
      · intro d hd
        rw [hsubmitted] at hd
        rcases List.mem_append.mp hd with hd | hd
        · exact h.policy_submitted d hd
        · obtain rfl : d = ⟨c.request kind, c.policy⟩ := by
            cases hkeeps : s.manager.keeps <;> simp_all
          exact hpolicy
      · intro d hd
        rw [hsubmitted]
        exact List.mem_append_left _ (h.mem_submitted d hd)

/-- **Run.**  Throughout a run a session stays faithful to its policy. -/
theorem Faithful.run (h : Faithful policy s) (steps : List SessionStep) :
    Faithful policy (s.run steps) := by
  induction steps generalizing s with
  | nil => exact h
  | cons a rest ih => exact ih (h.next a)

/-- **The effect of a callback.**  Take any run of a session whose manager had recorded nothing at
    the start, and any recorded delegate after it.  A callback on this delegate, whatever was called
    before, is answered as it is owed under the policy of the controller, whether or not anybody
    listens.  If some stream is left, the event that is owed is put at the end of the queue, nothing
    is logged, and nothing else changes; if none is left nothing changes at all, and one record
    names the kind and the number of the request.  All operations that call back do just this, on a
    recorded delegate or on a copy of one. -/
theorem callback_effect (identifier : Identifier) (policy : ReplacementPolicy) (manager : Manager)
    (hnew : manager.submitted = []) (steps : List SessionStep) :
    let s := (new identifier policy manager).run steps
    (∀ d ∈ s.manager.submitted, ∀ callback, ∃ answer event,
      callback.Owed d.request policy answer event ∧
      (s.channel.isOpen = true → s.call d callback = (.answered answer,
        { s with channel := { s.channel with queue := s.channel.queue ++ [event] } }, [])) ∧
      (s.channel.isOpen = false → ∃ reason : String, s.call d callback = (.answered answer, s,
        [⟨.debug, Delegate.target,
          s!"Dropping {d.request.kind} callback for {d.request.id}: {reason}"⟩]))) ∧
    (∀ a d callback, s.callback? a = some (d, callback) →
      d ∈ s.manager.submitted ∧ s.step a = s.call d callback) ∧
    (s.handle = true → ∀ (n : Nat) d callback, s.manager.submitted[n]? = some d →
      s.callback? (.callback (some n) callback) = some (d, callback)) := by
  intro s
  have h : Faithful policy s := (faithful_new identifier policy hnew).run steps
  refine ⟨?_, ?_, ?_⟩
  · intro d hd callback
    have howed := d.owed callback
    rw [h.policy_submitted d hd] at howed
    refine ⟨_, _, howed, s.call_of_isOpen d callback, ?_⟩
    intro hclosed
    exact ⟨_, s.call_of_not_isOpen d callback hclosed⟩
  · intro a d callback hcall
    exact ⟨mem_submitted_of_callback? h.mem_submitted hcall, step_of_callback? hcall⟩
  · intro hhandle n d callback hd
    exact callback?_of_submitted hhandle hd callback

/-- After its request has finished and the last stream is gone, a delegate still answers by the
    policy, and the callback leaves one record. -/
theorem callback_effect_unheard :
    let manager : Manager := .recorder none []
    let s := (new .standard .cancel manager).run
      [.submit .activate, .callback none (.finished .completed), .stream 0 .drop]
    manager.submitted = [] ∧ ∃ d ∈ s.manager.submitted, ∀ existing replacement, ∃ record,
      s.call d (.replacementNeeded existing replacement)
        = (.answered (some .cancel), s, [record]) := by
  intro manager s
  refine ⟨rfl, ⟨⟨⟨1⟩, .activate, .standard⟩, .cancel⟩, by decide, fun existing replacement => ?_⟩
  obtain ⟨heffect, -, -⟩ := callback_effect .standard .cancel manager rfl
    [.submit .activate, .callback none (.finished .completed), .stream 0 .drop]
  obtain ⟨answer, event, howed, -, hclosed⟩ := heffect ⟨⟨⟨1⟩, .activate, .standard⟩, .cancel⟩
    (by decide) (.replacementNeeded existing replacement)
  obtain ⟨reason, hcall⟩ := hclosed (by decide)
  cases howed
  exact ⟨_, hcall⟩

end Session
end DriverExtension
