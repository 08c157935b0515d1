import DriverExtension.Lifecycle.Session
import DriverExtension.Proofs.Trace

namespace DriverExtension

open Log

/-!
# The submissions of a session

A session over a recorder that refuses nothing, in any order of calls, callbacks, copies and stream
operations.

* `RequestId.nth` — the request numbers in the order in which they are given out;
* `Session.returned`, `Session.accepted` — what the calls of a run returned;
* `Session.next_frame` — what every operation other than a call leaves as it is;
* `Session.Recorded` — the invariant: recorder, counter and copies agree with the calls made so far;
* `Session.submission_history` — the account of all calls of a run.
-/

/-! ### Request numbers -/

/-- The number of the `k`-th request, counted from one; after the last word it starts at zero. -/
def RequestId.nth (k : Nat) : RequestId := ⟨UInt64.ofNat k⟩

/-- The numbers are given out one after the other. -/
theorem RequestId.next_nth (k : Nat) : (nth k).next = nth (k + 1) := by
  rw [next, nth, nth, UInt64.ofNat_add]
  rfl

/-- A request number is its place, but for the words that were used up. -/
theorem RequestId.toNat_nth (k : Nat) : (nth k).val.toNat = k % UInt64.size := rfl

example : RequestId.nth (UInt64.size - 1) = ⟨0xffffffffffffffff⟩ ∧
    RequestId.nth UInt64.size = ⟨0⟩ := by decide

/-- Two places have the same number exactly if they are some rounds of all words apart. -/
theorem RequestId.nth_eq_nth_iff (j k : Nat) :
    nth j = nth k ↔ j % UInt64.size = k % UInt64.size := by
  rw [← toNat_nth, ← toNat_nth]
  constructor
  · intro h
    rw [h]
  · intro h
    exact congrArg RequestId.mk (UInt64.toNat_inj.mp h)

/-- Places that are less than one round apart have different numbers. -/
theorem RequestId.nth_ne_nth {j k : Nat} (hlt : j < k) (hround : k < j + UInt64.size) :
    nth j ≠ nth k := by
  rw [Ne, nth_eq_nth_iff]
  unfold UInt64.size at hround ⊢
  omega

/-- The kind of the request that an operation asks for. -/
def SessionStep.kind? : SessionStep → Option RequestKind
  | .submit kind => some kind
  | _ => none

/-- Only a call asks for a kind. -/
theorem SessionStep.eq_submit_of_kind? (a : SessionStep) (kind : RequestKind)
    (h : a.kind? = some kind) : a = .submit kind := by
  cases a with
  | submit k => rw [Option.some.inj h]
  | _ => cases h

/-- The kinds that a list of operations calls for, as long as the controller is there. -/
def SessionStep.calls (steps : List SessionStep) : List RequestKind :=
  (steps.takeWhile (· ≠ .dropController)).filterMap kind?

/-- After the controller is dropped nothing can be called for. -/
theorem SessionStep.calls_drop (rest : List SessionStep) :
    calls (.dropController :: rest) = [] := rfl

/-- Any other operation adds the kind that it asks for. -/
theorem SessionStep.calls_cons (a : SessionStep) (rest : List SessionStep)
    (ha : a ≠ .dropController) : calls (a :: rest) = a.kind?.toList ++ calls rest := by
  have hkeep : decide (a ≠ .dropController) = true := decide_eq_true ha
  rw [calls, List.takeWhile_cons, hkeep, if_pos rfl, List.filterMap_cons]
  cases a.kind? <;> rfl

/-- Whether an answer bears neither the result of a call nor what a stream handed over. -/
def SessionReply.isPlain : SessionReply → Bool
  | .submitted _ => false
  | .stream _ => false
  | _ => true

namespace Session

/-! ### Observations of a run -/

/-- The session after an operation. -/
def next (s : Session) (a : SessionStep) : Session := (s.step a).2.1

/-- The answers to the operations of a run. -/
def replies (s : Session) (steps : List SessionStep) : List SessionReply :=
  Trace.collect next (fun s a => [(s.step a).1]) s steps

/-- What a call returns. -/
def returnedBy (s : Session) (a : SessionStep) : List (Except Fault Request) :=
  match (s.step a).1 with
  | .submitted result => [result]
  | _ => []

/-- What the calls of a run returned, in order. -/
def returned (s : Session) (steps : List SessionStep) : List (Except Fault Request) :=
  Trace.collect next returnedBy s steps

/-- The requests of a run that were accepted, in order. -/
def accepted (s : Session) (steps : List SessionStep) : List Request :=
  (s.returned steps).filterMap Except.toOption

/-- The kind that an operation calls for, if the controller is there. -/
def calledBy (s : Session) (a : SessionStep) : List RequestKind :=
  if s.controller.isSome then a.kind?.toList else []

/-- The kinds that the calls of a run asked for, in order. -/
def called (s : Session) (steps : List SessionStep) : List RequestKind :=
  Trace.collect next calledBy s steps

/-! ### One operation -/

/-- A delegate that was asked for is one of those recorded. -/
theorem mem_submitted_of_delegate (s : Session) (n : Option Nat) (d : Delegate)
    (h : s.delegate n = .ok d) : d ∈ s.manager.submitted := by
  unfold delegate delegates? at h
  cases hh : s.handle with
  | false => rw [hh] at h; cases h
  | true =>
    rw [hh] at h
    cases n with
    | some n =>
      cases hd : s.manager.submitted[n]? with
      | none => simp [hd] at h
      | some x =>
        obtain rfl : x = d := by simpa [hd] using h
        exact List.mem_of_getElem? hd
    | none =>
      cases hd : s.manager.submitted.getLast? with
      | none => simp [hd] at h
      | some x =>
        obtain rfl : x = d := by simpa [hd] using h
        exact List.mem_of_getLast? hd

/-- A delegate is not found if the recorder cannot be asked or does not have it. -/
theorem delegate_error (s : Session) (n : Option Nat) (reply : SessionReply)
    (h : s.delegate n = .error reply) : reply = .noRecorder ∨ reply = .noDelegate := by
  unfold delegate at h
  split at h
  · cases h
    exact Or.inl rfl
  · split at h
    · cases h
    · cases h
      exact Or.inr rfl

/-- Results are returned by calls only, and events are answered by stream operations only. -/
theorem isPlain_step (s : Session) (a : SessionStep) (ha : a.kind? = none)
    (hstream : ∀ slot b, a ≠ .stream slot b) : (s.step a).1.isPlain = true := by
  cases a with
  | submit kind => cases ha
  | stream slot b => exact absurd rfl (hstream slot b)
  | callback n callback =>
    rw [step]
    cases hd : s.delegate n with
    | ok d => rfl
    | error reply => rcases s.delegate_error n reply hd with rfl | rfl <;> rfl
  | copy n =>
    rw [step]
    cases hd : s.delegate n with
    | ok d => rfl
    | error reply => rcases s.delegate_error n reply hd with rfl | rfl <;> rfl
  | onCopy slot a =>
    rw [step, copyStep]
    split
    · cases a <;> rfl
    · rfl
  | dropController => rfl
  | dropHandle => rfl

/-- An operation other than a call calls for nothing. -/
theorem calledBy_of_kind? (s : Session) (a : SessionStep) (ha : a.kind? = none) :
    s.calledBy a = [] := by
  rw [calledBy, ha]
  exact ite_self []

/-- An operation other than a call returns no request. -/
theorem returnedBy_of_kind? (s : Session) (a : SessionStep) (ha : a.kind? = none) :
    s.returnedBy a = [] := by
  rw [returnedBy]
  split
  · rename_i result hresult
    by_cases hstream : ∃ slot b, a = .stream slot b
    · obtain ⟨slot, b, rfl⟩ := hstream
      cases hresult
    · have hplain := isPlain_step s a ha fun slot b hb => hstream ⟨slot, b, hb⟩
      rw [hresult] at hplain
      cases hplain
  · rfl

/-- A call hands the delegate of the next request to the manager, and the controller counts on,
    whatever the manager answers. -/
theorem step_submit (s : Session) (kind : RequestKind) (c : Controller)
    (hc : s.controller = some c) :
    let answer := s.manager.submit ⟨c.request kind, c.policy⟩ s.channel
    s.step (.submit kind)
      = (.submitted (answer.1.map fun _ => c.request kind),
        { s with channel := answer.2.2.1, controller := some c.advance, manager := answer.2.1 },
        c.submitting kind s.manager :: answer.2.2.2) := by
  rw [step, submit, hc]
  rfl

/-- A recorder that refuses nothing accepts a call: it keeps the delegate of the request, which is
    returned, and the controller counts on. -/
theorem step_submit_recorder (s : Session) (kind : RequestKind) (c : Controller)
    (ds : List Delegate) (hc : s.controller = some c) (hm : s.manager = .recorder none ds) :
    s.step (.submit kind)
      = (.submitted (.ok (c.request kind)),
        { s with
          controller := some c.advance
          manager := .recorder none (ds ++ [⟨c.request kind, c.policy⟩]) },
        [c.submitting kind s.manager]) := by
  rw [s.step_submit kind c hc, hm]
  rfl

/-- **Frame.**  An operation other than a call leaves the recorder as it is; it leaves the
    controller as it is or drops it; and whatever copies there are afterwards were there or are of
    recorded delegates. -/
theorem next_frame (s : Session) (a : SessionStep) (ha : a.kind? = none) :
    (s.next a).manager = s.manager ∧
    (a ≠ .dropController → (s.next a).controller = s.controller) ∧
    (∀ c, (s.next a).controller = some c → s.controller = some c) ∧
    (∀ d, some d ∈ (s.next a).copies → some d ∈ s.copies ∨ d ∈ s.manager.submitted) := by
  have hself : ∀ d, some d ∈ s.copies → some d ∈ s.copies ∨ d ∈ s.manager.submitted :=
    fun _ => Or.inl
  cases a with
  | submit kind => cases ha
  | callback n callback =>
    rw [next, step]
    cases s.delegate n <;> exact ⟨rfl, fun _ => rfl, fun _ => id, hself⟩
  | copy n =>
    rw [next, step]
    cases hd : s.delegate n with
    | error reply => exact ⟨rfl, fun _ => rfl, fun _ => id, hself⟩
    | ok d =>
      refine ⟨rfl, fun _ => rfl, fun _ => id, ?_⟩
      intro x hx
      rcases List.mem_append.mp hx with hx | hx
      · exact hself x hx
      · obtain rfl : x = d := Option.some.inj (List.mem_singleton.mp hx)
        exact Or.inr (mem_submitted_of_delegate s n x hd)
  | onCopy slot a =>
    rw [next, step, copyStep]
    split
    · rename_i d hd
      cases a with
      | callback callback => exact ⟨rfl, fun _ => rfl, fun _ => id, hself⟩
      | clone =>
        refine ⟨rfl, fun _ => rfl, fun _ => id, ?_⟩
        intro x hx
        rcases List.mem_append.mp hx with hx | hx
        · exact hself x hx
        · rw [List.mem_singleton.mp hx]
          exact Or.inl (List.mem_of_getElem? hd)
      | drop =>
        -- an emptied slot adds no copy
        refine ⟨rfl, fun _ => rfl, fun _ => id, ?_⟩
        intro x hx
        rcases List.mem_or_eq_of_mem_set hx with hx | hx
        · exact hself x hx
        · cases hx
    · exact ⟨rfl, fun _ => rfl, fun _ => id, hself⟩
  | stream slot a => exact ⟨rfl, fun _ => rfl, fun _ => id, hself⟩
  | dropController =>
    refine ⟨rfl, fun h => absurd rfl h, ?_, hself⟩
    intro c hc
    cases hc
  | dropHandle => exact ⟨rfl, fun _ => rfl, fun _ => id, hself⟩

/-! ### The invariant -/

/-- The requests of calls for the given kinds, the first of them with number one. -/
def issued (identifier : Identifier) (kinds : List RequestKind) : List Request :=
  kinds.mapIdx fun k kind => ⟨.nth (k + 1), kind, identifier⟩

/-- What holds of a session after calls for the given kinds: the recorder holds one delegate for
    each of them, with its request and the policy; the controller, if it is there, counts on; and
    every copy is of a recorded delegate. -/
structure Recorded (identifier : Identifier) (policy : ReplacementPolicy) (kinds : List RequestKind)
    (s : Session) : Prop where
  manager_eq : s.manager = .recorder none ((issued identifier kinds).map (⟨·, policy⟩))
  controller_eq : ∀ c, s.controller = some c → c = ⟨identifier, policy, .nth (kinds.length + 1)⟩
  mem_submitted : ∀ d, some d ∈ s.copies → d ∈ s.manager.submitted

/-- A new session has recorded nothing. -/
theorem recorded_new (identifier : Identifier) (policy : ReplacementPolicy) :
    Recorded identifier policy [] (Session.new identifier policy (.recorder none [])) where
  manager_eq := rfl
  controller_eq := fun _ hc => (Option.some.inj hc).symm
  mem_submitted := fun _ hd => nomatch hd

/-- One more call issues one more request, with the next number. -/
theorem issued_concat (identifier : Identifier) (kinds : List RequestKind) (kind : RequestKind) :
    issued identifier (kinds ++ [kind])
      = issued identifier kinds ++ [⟨.nth (kinds.length + 1), kind, identifier⟩] :=
  List.mapIdx_concat

/-- Each call issues one request. -/
theorem length_issued (identifier : Identifier) (kinds : List RequestKind) :
    (issued identifier kinds).length = kinds.length :=
  List.length_mapIdx

/-- The request of a place has the kind of the call, and the number of the place. -/
theorem getElem?_issued (identifier : Identifier) (kinds : List RequestKind) (k : Nat) :
    (issued identifier kinds)[k]? = kinds[k]?.map fun kind => ⟨.nth (k + 1), kind, identifier⟩ :=
  List.getElem?_mapIdx

variable {identifier : Identifier} {policy : ReplacementPolicy} {kinds : List RequestKind}
  {s : Session}

/-- **Step.**  Every operation keeps the invariant, with the kind that it calls for added, and
    returns the request that was issued for it. -/
theorem Recorded.step (h : Recorded identifier policy kinds s) (a : SessionStep) :
    Recorded identifier policy (kinds ++ s.calledBy a) (s.next a) ∧
    ∃ requests, s.returnedBy a = requests.map .ok ∧
      issued identifier (kinds ++ s.calledBy a) = issued identifier kinds ++ requests := by
  cases ha : a.kind? with
  | none =>
    obtain ⟨hmanager, _, hcontroller, hcopies⟩ := next_frame s a ha
    rw [calledBy_of_kind? s a ha, returnedBy_of_kind? s a ha, List.append_nil]
    refine ⟨⟨hmanager.trans h.manager_eq, ?_, ?_⟩, [], rfl, (List.append_nil _).symm⟩
    · intro c hc
      exact h.controller_eq c (hcontroller c hc)
    · intro d hd
      rw [hmanager]
      rcases hcopies d hd with hd | hd
      · exact h.mem_submitted d hd
      · exact hd
  | some kind =>
    obtain rfl : a = .submit kind := SessionStep.eq_submit_of_kind? a kind ha
    cases hc : s.controller with
    | none =>
      -- nobody to call: nothing is issued
      have hstep : s.step (.submit kind) = (.noController, s, []) := by
        rw [Session.step, submit, hc]
      rw [calledBy, hc, returnedBy, next, hstep]
      refine ⟨?_, [], rfl, ?_⟩
      · rw [Option.isSome_none, if_neg Bool.false_ne_true, List.append_nil]
        exact h
      · rw [Option.isSome_none, if_neg Bool.false_ne_true, List.append_nil, List.append_nil]
    | some c =>
      have hstep := step_submit_recorder s kind c _ hc h.manager_eq
      have hcalled : s.calledBy (.submit kind) = [kind] := by
        rw [calledBy, hc, Option.isSome_some, if_pos rfl]
        rfl
      -- the number in the controller is the place of the delegate that is recorded next
      obtain rfl := h.controller_eq c hc
      rw [hcalled, issued_concat, returnedBy, next, hstep]
      refine ⟨⟨?_, ?_, ?_⟩, _, rfl, rfl⟩
      · rw [issued_concat, List.map_append]
        rfl
      · intro c' hc'
        rw [← Option.some.inj hc', List.length_append, List.length_singleton,
          ← RequestId.next_nth (kinds.length + 1)]
        rfl
      · intro d hd
        have hmem := h.mem_submitted d hd
        rw [h.manager_eq] at hmem
        exact List.mem_append_left _ hmem

/-! ### Runs -/

/-- A run returns what its first operation returns and then what the rest of it returns. -/
theorem accepted_cons (s : Session) (a : SessionStep) (rest : List SessionStep) :
    s.accepted (a :: rest)
      = (s.returnedBy a).filterMap Except.toOption ++ (s.next a).accepted rest := by
  rw [accepted, returned, Trace.collect_cons, List.filterMap_append]
  rfl

/-- **Run.**  A run keeps the invariant, with the kinds that it calls for added, and returns the
    requests that were issued for them, none of them refused. -/
theorem Recorded.run (h : Recorded identifier policy kinds s) (steps : List SessionStep) :
    Recorded identifier policy (kinds ++ s.called steps) (s.run steps) ∧
    issued identifier (kinds ++ s.called steps) = issued identifier kinds ++ s.accepted steps ∧
    s.returned steps = (s.accepted steps).map .ok := by
  -- on the operations, for any calls made before: each step extends the kinds at their end
  induction steps generalizing s kinds with
  | nil =>
    rw [called, Trace.collect_nil, List.append_nil]
    exact ⟨h, (List.append_nil _).symm, rfl⟩
  | cons a rest ih =>
    obtain ⟨hstep, requests, hreturned, hissued⟩ := h.step a
    obtain ⟨hrun, hrest, hok⟩ := ih hstep
    have hfirst : (s.returnedBy a).filterMap Except.toOption = requests := by
      rw [hreturned, List.filterMap_map]
      exact List.filterMap_some
    have hcalled : kinds ++ s.called (a :: rest)
        = kinds ++ s.calledBy a ++ (s.next a).called rest := by
      rw [called, Trace.collect_cons, List.append_assoc]
      rfl
    rw [hcalled, accepted_cons, hfirst]
    refine ⟨hrun, ?_, ?_⟩
    · rw [hrest, hissued, List.append_assoc]
    · rw [returned, Trace.collect_cons, hreturned, List.map_append]
      exact congrArg (requests.map .ok ++ ·) hok

/-- Only dropping the controller takes it away. -/
theorem isSome_controller_next (s : Session) (a : SessionStep) (ha : a ≠ .dropController) :
    (s.next a).controller.isSome = s.controller.isSome := by
  cases hkind : a.kind? with
  | none => rw [(next_frame s a hkind).2.1 ha]
  | some kind =>
    rw [SessionStep.eq_submit_of_kind? a kind hkind, next, step, submit]
    cases hc : s.controller with
    | none => exact congrArg Option.isSome hc
    | some c => rfl

/-- What a run calls for can be read off its operations: all calls before the controller is
    dropped. -/
theorem called_eq_calls (s : Session) (steps : List SessionStep) :
    s.called steps = if s.controller.isSome then SessionStep.calls steps else [] := by
  induction steps generalizing s with
  | nil => exact (ite_self []).symm
  | cons a rest ih =>
    have hcons : s.called (a :: rest) = s.calledBy a ++ (s.next a).called rest := rfl
    rw [hcons, ih (s.next a)]
    -- from here on no call gets through
    by_cases hdrop : a = .dropController
    · rw [hdrop, calledBy_of_kind? s _ rfl, SessionStep.calls_drop, ite_self]
      rfl
    · rw [isSome_controller_next s a hdrop, SessionStep.calls_cons a rest hdrop, calledBy]
      cases s.controller.isSome <;> rfl

/-! ### Runs of a new session -/

/-- The invariant after a run of a new session over a recorder that refuses nothing. -/
theorem recorded_run (identifier : Identifier) (policy : ReplacementPolicy)
    (steps : List SessionStep) :
    Recorded identifier policy (SessionStep.calls steps)
      ((Session.new identifier policy (.recorder none [])).run steps) := by
  have hrun := ((recorded_new identifier policy).run steps).1
  rw [List.nil_append, called_eq_calls] at hrun
  exact hrun

/-- The requests that were accepted are those issued for the calls of the run. -/
theorem accepted_eq_issued (identifier : Identifier) (policy : ReplacementPolicy)
    (steps : List SessionStep) :
    (Session.new identifier policy (.recorder none [])).accepted steps
      = issued identifier (SessionStep.calls steps) := by
  have hissued := ((recorded_new identifier policy).run steps).2.1
  rw [List.nil_append, called_eq_calls] at hissued
  exact hissued.symm

/-- The recorder holds the delegates of the requests that were accepted. -/
theorem submitted_eq_accepted (identifier : Identifier) (policy : ReplacementPolicy)
    (steps : List SessionStep) :
    ((Session.new identifier policy (.recorder none [])).run steps).manager.submitted
      = ((Session.new identifier policy (.recorder none [])).accepted steps).map (⟨·, policy⟩) := by
  rw [accepted_eq_issued, (recorded_run identifier policy steps).manager_eq]
  rfl

/-- The request of a place has the number of that place. -/
theorem id_of_getElem?_issued (identifier : Identifier) (kinds : List RequestKind) (k : Nat)
    (r : Request) (h : (issued identifier kinds)[k]? = some r) : r.id = .nth (k + 1) := by
  rw [getElem?_issued] at h
  obtain ⟨kind, -, rfl⟩ := Option.map_eq_some_iff.mp h
  rfl

/-- **Submission history.**  For every run of a session over a recorder that refuses nothing, with
    `calls` the kinds that its calls ask for: every call returns a request, the recorder holds one
    delegate for each call, and the `k`-th of them carries the request that the `k`-th call returned
    and the policy; this request has the number `k` modulo `2 ^ 64`, the kind of its call and the
    identifier of the controller.  Nothing but a call changes the recorded delegates or the next
    number.  Hence the numbers of the first `2 ^ 64 - 1` requests increase, and no two of any
    `2 ^ 64` requests in a row have the same number. -/
theorem submission_history (identifier : Identifier) (policy : ReplacementPolicy)
    (steps : List SessionStep) :
    let start := Session.new identifier policy (.recorder none [])
    let s := start.run steps
    let calls := SessionStep.calls steps
    let requests := start.accepted steps
    start.returned steps = requests.map .ok ∧
    requests.length = calls.length ∧ s.manager.submitted.length = calls.length ∧
    (∀ k kind, calls[k]? = some kind → ∃ r, requests[k]? = some r ∧
      s.manager.submitted[k]? = some ⟨r, policy⟩ ∧
      r.id.val.toNat = (k + 1) % UInt64.size ∧ r.kind = kind ∧ r.identifier = identifier) ∧
    (∀ c, s.controller = some c → c.next.val.toNat = (calls.length + 1) % UInt64.size) ∧
    (∀ a, a.kind? = none → (s.step a).2.1.manager = s.manager ∧
      (a ≠ .dropController → (s.step a).2.1.controller = s.controller)) ∧
    (∀ j k a b, j < k → k + 1 < UInt64.size → requests[j]? = some a → requests[k]? = some b →
      a.id.val < b.id.val) ∧
    (∀ j k a b, j < k → k < j + UInt64.size → requests[j]? = some a → requests[k]? = some b →
      a.id ≠ b.id) := by
  intro start s calls requests
  have hrequests : requests = issued identifier calls :=
    accepted_eq_issued identifier policy steps
  have hsubmitted : s.manager.submitted = requests.map (⟨·, policy⟩) :=
    submitted_eq_accepted identifier policy steps
  have hlength : requests.length = calls.length := by
    rw [hrequests]
    exact List.length_mapIdx
  have hid : ∀ (k : Nat) (r : Request), requests[k]? = some r → r.id = .nth (k + 1) := by
    intro k r hr
    rw [hrequests] at hr
    exact id_of_getElem?_issued identifier calls k r hr
  refine ⟨((recorded_new identifier policy).run steps).2.2, hlength, ?_, ?_, ?_, ?_, ?_, ?_⟩
  · rw [hsubmitted, List.length_map, hlength]
  · intro k kind hkind
    have hr : requests[k]? = some ⟨.nth (k + 1), kind, identifier⟩ := by
      rw [hrequests, issued, List.getElem?_mapIdx, hkind]
      rfl
    refine ⟨_, hr, ?_, RequestId.toNat_nth (k + 1), rfl, rfl⟩
    rw [hsubmitted, List.getElem?_map, hr]
    rfl
  · intro c hc
    rw [(recorded_run identifier policy steps).controller_eq c hc]
    exact RequestId.toNat_nth (calls.length + 1)
  · intro a ha
    obtain ⟨hmanager, hcontroller, -, -⟩ := next_frame s a ha
    exact ⟨hmanager, hcontroller⟩
  · intro j k a b hjk hk ha hb
    have hj : j + 1 < UInt64.size := by omega
    rw [hid j a ha, hid k b hb, UInt64.lt_iff_toNat_lt, RequestId.toNat_nth, RequestId.toNat_nth,
      Nat.mod_eq_of_lt hj, Nat.mod_eq_of_lt hk]
    omega
  · intro j k a b hjk hk ha hb
    rw [hid j a ha, hid k b hb]
    exact RequestId.nth_ne_nth (by omega) (by omega)

end Session
end DriverExtension
