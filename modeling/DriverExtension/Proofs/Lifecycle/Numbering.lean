import DriverExtension.Proofs.Lifecycle.Submissions
import Mathlib.Data.List.Nodup

namespace DriverExtension

/-!
# Controllers over one manager

Any number of controllers may submit to the same manager, in any order.  Each of them numbers its
own requests, so a number says which request of a controller is meant, but not of which controller.

* `Fleet`, `FleetStep` — controllers that share a manager, and what may happen to them;
* `Fleet.sent` — the requests that a run hands to the manager;
* `Fleet.Numbered` — the invariant: every controller counts its own requests;
* `Fleet.numbering_by_controller` — the account of all numbers, and when they tell requests apart;
* `Fleet.two_controllers_one_number` — two controllers whose requests have the same number.
-/

/-- Controllers over one manager, each with the channel that its callbacks arrive on. -/
structure Fleet where
  manager : Manager
  members : List (Controller × Channel)

/-- What happens to controllers over one manager. -/
inductive FleetStep where
  | create (identifier : Identifier) (policy : ReplacementPolicy)
  /-- A call of the controller at a place. -/
  | submit (n : Nat) (kind : RequestKind)
deriving DecidableEq

/-- A request that was handed to the manager, with the place of the controller that did so. -/
structure Sent where
  sender : Nat
  request : Request
deriving DecidableEq

namespace Sent

/-- The requests of one controller among those sent. -/
def requestsOf (n : Nat) (sent : List Sent) : List Request :=
  (sent.filter (·.sender = n)).map request

/-- Where a place is no sender, its controller has sent nothing. -/
theorem requestsOf_eq_nil {n : Nat} {sent : List Sent} (h : ∀ a ∈ sent, a.sender ≠ n) :
    requestsOf n sent = [] := by
  rw [requestsOf, List.map_eq_nil_iff, List.filter_eq_nil_iff]
  intro a ha
  simpa using h a ha

/-- One more request is the last one of its sender, and those of the others are as before. -/
theorem requestsOf_concat (n : Nat) (sent : List Sent) (a : Sent) :
    requestsOf n (sent ++ [a])
      = requestsOf n sent ++ if a.sender = n then [a.request] else [] := by
  rw [requestsOf, List.filter_append, List.map_append, List.filter_cons, List.filter_nil]
  by_cases h : a.sender = n
  · simp [h, requestsOf]
  · simp [h, requestsOf]

end Sent

namespace Fleet

/-- No controllers yet. -/
def new (manager : Manager) : Fleet := ⟨manager, []⟩

/-- The controllers and their manager after a step.  Where there is no controller there is nobody to
    call. -/
def next (f : Fleet) : FleetStep → Fleet
  | .create identifier policy => { f with members := f.members ++ [(.new identifier policy, .new)] }
  | .submit n kind =>
    match f.members[n]? with
    | none => f
    | some (c, channel) =>
      let (_, c, manager, channel, _) := c.submit kind f.manager channel
      ⟨manager, f.members.set n (c, channel)⟩

/-- The request that a step hands to the manager. -/
def sentBy (f : Fleet) : FleetStep → List Sent
  | .create .. => []
  | .submit n kind => (f.members[n]?.map fun m => ⟨n, m.1.request kind⟩).toList

/-- The requests that a run hands to the manager, in order. -/
def sent (f : Fleet) (steps : List FleetStep) : List Sent := Trace.collect next sentBy f steps

/-- The controllers and their manager after a run. -/
def run (f : Fleet) (steps : List FleetStep) : Fleet := steps.foldl next f

/-! ### Calls -/

/-- A call where there is no controller does nothing. -/
theorem next_submit_of_none {f : Fleet} {n : Nat} (kind : RequestKind) (hn : f.members[n]? = none) :
    f.next (.submit n kind) = f ∧ f.sentBy (.submit n kind) = [] := by
  rw [next, sentBy, hn]
  exact ⟨rfl, rfl⟩

/-- A call of a controller hands its next request to the manager, and moves this controller on. -/
theorem next_submit_of_some {f : Fleet} {n : Nat} {c : Controller} {channel : Channel}
    (kind : RequestKind) (hn : f.members[n]? = some (c, channel)) :
    f.sentBy (.submit n kind) = [⟨n, c.request kind⟩] ∧
    (f.next (.submit n kind)).manager
      = (f.manager.submit ⟨c.request kind, c.policy⟩ channel).2.1 ∧
    ∃ channel', (f.next (.submit n kind)).members = f.members.set n (c.advance, channel') := by
  rw [next, sentBy, hn]
  exact ⟨rfl, rfl, _, rfl⟩

/-- A recorder that refuses nothing keeps the delegates of all requests that it is handed. -/
theorem submitted_run (f : Fleet) (ds : List Delegate) (hm : f.manager = .recorder none ds)
    (steps : List FleetStep) :
    (f.run steps).manager.submitted.map Delegate.request
      = ds.map Delegate.request ++ (f.sent steps).map Sent.request := by
  induction steps generalizing f ds with
  | nil =>
    rw [run, List.foldl_nil, hm, sent, Trace.collect_nil, List.map_nil, List.append_nil]
    rfl
  | cons a rest ih =>
    have hrun : f.run (a :: rest) = (f.next a).run rest := rfl
    have hsent : f.sent (a :: rest) = f.sentBy a ++ (f.next a).sent rest := rfl
    rw [hrun, hsent, List.map_append, ← List.append_assoc]
    cases a with
    | create identifier policy =>
      rw [ih (f.next (.create identifier policy)) ds hm, sentBy, List.map_nil, List.append_nil]
    | submit n kind =>
      cases hn : f.members[n]? with
      | none =>
        obtain ⟨hnext, hnothing⟩ := next_submit_of_none kind hn
        rw [hnext, hnothing, ih f ds hm, List.map_nil, List.append_nil]
      | some m =>
        obtain ⟨c, channel⟩ := m
        obtain ⟨hone, hmanager, -⟩ := next_submit_of_some kind hn
        rw [hm] at hmanager
        rw [ih _ _ hmanager, hone, List.map_append]
        rfl

/-! ### The invariant -/

/-- What holds after some requests were sent: the senders are controllers, and each controller has
    numbered its own requests from one and counts on. -/
structure Numbered (f : Fleet) (sent : List Sent) : Prop where
  sender_lt : ∀ a ∈ sent, a.sender < f.members.length
  ids_eq : ∀ n, (Sent.requestsOf n sent).map Request.id
    = (List.range (Sent.requestsOf n sent).length).map fun k => RequestId.nth (k + 1)
  next_eq : ∀ n (m : Controller × Channel), f.members[n]? = some m →
    m.1.next = .nth ((Sent.requestsOf n sent).length + 1)

/-- Nothing is sent before there are controllers. -/
theorem numbered_new (manager : Manager) : Numbered (new manager) [] where
  sender_lt := fun _ ha => nomatch ha
  ids_eq := fun _ => rfl
  next_eq := fun _ _ hm => nomatch hm

/-- A new controller has sent nothing, so it numbers its first request with one. -/
theorem Numbered.create {f : Fleet} {sent : List Sent} (h : Numbered f sent)
    (identifier : Identifier) (policy : ReplacementPolicy) :
    Numbered (f.next (.create identifier policy)) sent := by
  refine ⟨?_, h.ids_eq, ?_⟩
  · intro a ha
    rw [Fleet.next, List.length_append]
    exact Nat.lt_add_right 1 (h.sender_lt a ha)
  · intro n m hm
    rw [Fleet.next, List.getElem?_append] at hm
    split at hm
    · exact h.next_eq n m hm
    · rename_i hn
      have hnew : m = (.new identifier policy, .new) :=
        List.mem_singleton.mp (List.mem_of_getElem? hm)
      have hnone : Sent.requestsOf n sent = [] :=
        Sent.requestsOf_eq_nil fun a ha hsender => hn (hsender ▸ h.sender_lt a ha)
      rw [hnew, hnone]
      rfl

/-- A call sends the request that the controller has the number for, and moves this controller
    on. -/
theorem Numbered.submit {f : Fleet} {sent : List Sent} (h : Numbered f sent) {n : Nat}
    {c : Controller} {channel : Channel} (kind : RequestKind)
    (hn : f.members[n]? = some (c, channel)) :
    Numbered (f.next (.submit n kind)) (sent ++ [⟨n, c.request kind⟩]) := by
  have hc : c.next = .nth ((Sent.requestsOf n sent).length + 1) := h.next_eq n _ hn
  have hlt : n < f.members.length := (List.getElem?_eq_some_iff.mp hn).1
  obtain ⟨-, -, channel', hmembers⟩ := next_submit_of_some kind hn
  refine ⟨?_, ?_, ?_⟩
  · intro a ha
    rw [hmembers, List.length_set]
    rcases List.mem_append.mp ha with ha | ha
    · exact h.sender_lt a ha
    · rw [List.mem_singleton.mp ha]
      exact hlt
  · intro n'
    rw [Sent.requestsOf_concat]
    by_cases heq : n = n'
    · subst heq
      have hid : (c.request kind).id = .nth ((Sent.requestsOf n sent).length + 1) := hc
      rw [if_pos rfl, List.map_append, List.length_append, List.length_singleton,
        List.range_succ, List.map_append, h.ids_eq n, List.map_singleton, List.map_singleton, hid]
    · rw [if_neg heq, List.append_nil]
      exact h.ids_eq n'
  · intro n' m hm
    rw [hmembers, List.getElem?_set] at hm
    rw [Sent.requestsOf_concat]
    by_cases heq : n = n'
    · -- the caller has used up one number
      subst heq
      rw [if_pos rfl, if_pos hlt] at hm
      rw [if_pos rfl, List.length_append, List.length_singleton, ← RequestId.next_nth, ← hc,
        ← Option.some.inj hm]
      rfl
    · rw [if_neg heq] at hm
      rw [if_neg heq, List.append_nil]
      exact h.next_eq n' m hm

/-- **Step.**  A step keeps the invariant, with the request that it sends added. -/
theorem Numbered.next {f : Fleet} {sent : List Sent} (h : Numbered f sent) (a : FleetStep) :
    Numbered (f.next a) (sent ++ f.sentBy a) := by
  cases a with
  | create identifier policy =>
    rw [sentBy, List.append_nil]
    exact h.create identifier policy
  | submit n kind =>
    cases hn : f.members[n]? with
    | none =>
      obtain ⟨hnext, hnothing⟩ := next_submit_of_none kind hn
      rw [hnext, hnothing, List.append_nil]
      exact h
    | some m =>
      rw [(next_submit_of_some kind hn).1]
      exact h.submit kind hn

/-- **Run.**  A run keeps the invariant, with the requests that it sends added. -/
theorem Numbered.run {f : Fleet} {before : List Sent} (h : Numbered f before)
    (steps : List FleetStep) : Numbered (f.run steps) (before ++ f.sent steps) := by
  induction steps generalizing f before with
  | nil =>
    rw [sent, Trace.collect_nil, List.append_nil]
    exact h
  | cons a rest ih =>
    rw [sent, Trace.collect_cons, ← List.append_assoc]
    exact ih (h.next a)

/-! ### Numbers that tell requests apart -/

/-- The numbers of the first requests of a controller differ as long as there is one word for
    each. -/
theorem nodup_nth_iff (l : Nat) :
    ((List.range l).map fun k => RequestId.nth (k + 1)).Nodup ↔ l ≤ UInt64.size := by
  constructor
  · intro h
    by_contra hlong
    -- the request after one round has the number of the first one
    have hround : RequestId.nth (0 + 1) = RequestId.nth (UInt64.size + 1) := by
      rw [RequestId.nth_eq_nth_iff, Nat.add_mod_left, Nat.zero_add]
    have hfirst : 0 ∈ List.range l := List.mem_range.mpr (by omega)
    have hlast : UInt64.size ∈ List.range l := List.mem_range.mpr (by omega)
    have hsame := List.inj_on_of_nodup_map h hfirst hlast hround
    exact absurd hsame (by decide)
  · intro h
    refine List.Nodup.map_on ?_ List.nodup_range
    intro j hj k hk hjk
    rw [List.mem_range] at hj hk
    by_contra hne
    rcases Nat.lt_or_gt_of_ne hne with hlt | hlt
    · exact RequestId.nth_ne_nth (by omega) (by omega) hjk
    · exact RequestId.nth_ne_nth (by omega) (by omega) hjk.symm

variable {f : Fleet} {sent : List Sent}

/-- Every controller that has sent something has sent a request with number one. -/
theorem Numbered.exists_first (h : Numbered f sent) {a : Sent} (ha : a ∈ sent) :
    ∃ x ∈ sent, x.sender = a.sender ∧ x.request.id = .nth 1 := by
  have hmem : a.request ∈ Sent.requestsOf a.sender sent :=
    List.mem_map_of_mem (List.mem_filter.mpr ⟨ha, decide_eq_true rfl⟩)
  have hfirst : RequestId.nth (0 + 1) ∈ (Sent.requestsOf a.sender sent).map Request.id := by
    rw [h.ids_eq]
    exact List.mem_map_of_mem (List.mem_range.mpr (List.length_pos_of_mem hmem))
  obtain ⟨r, hr, hid⟩ := List.mem_map.mp hfirst
  obtain ⟨x, hx, rfl⟩ := List.mem_map.mp hr
  rw [List.mem_filter, decide_eq_true_eq] at hx
  exact ⟨x, hx.1, hx.2, hid⟩

/-- If one controller has sent everything, the numbers are those of its requests. -/
theorem Numbered.ids_of_sender (h : Numbered f sent)
    (hone : ∀ a ∈ sent, ∀ b ∈ sent, a.sender = b.sender) :
    sent.map (·.request.id) = (List.range sent.length).map fun k => RequestId.nth (k + 1) := by
  cases sent with
  | nil => rfl
  | cons a rest =>
    have hall : Sent.requestsOf a.sender (a :: rest) = (a :: rest).map Sent.request := by
      rw [Sent.requestsOf, List.filter_eq_self.mpr]
      intro b hb
      exact decide_eq_true (hone b hb a List.mem_cons_self)
    have hids := h.ids_eq a.sender
    rw [hall, List.length_map, List.map_map] at hids
    exact hids

/-- Numbers tell all requests apart exactly if one controller has sent them, and there is a word for
    each. -/
theorem Numbered.nodup_iff (h : Numbered f sent) :
    (sent.map (·.request.id)).Nodup ↔
      (∀ a ∈ sent, ∀ b ∈ sent, a.sender = b.sender) ∧ sent.length ≤ UInt64.size := by
  constructor
  · intro hnodup
    have hone : ∀ a ∈ sent, ∀ b ∈ sent, a.sender = b.sender := by
      intro a ha b hb
      obtain ⟨x, hx, hxa, hxid⟩ := h.exists_first ha
      obtain ⟨y, hy, hyb, hyid⟩ := h.exists_first hb
      have hxy := List.inj_on_of_nodup_map hnodup hx hy (hxid.trans hyid.symm)
      rw [← hxa, ← hyb, hxy]
    rw [h.ids_of_sender hone, nodup_nth_iff] at hnodup
    exact ⟨hone, hnodup⟩
  · rintro ⟨hone, hlength⟩
    rw [h.ids_of_sender hone, nodup_nth_iff]
    exact hlength

/-- **Numbers of requests.**  Whatever controllers over one manager do, the `k`-th request of each of
    them has the number `k` modulo `2 ^ 64`.  So the numbers tell all requests that the manager is
    handed apart exactly if all of them come from one controller, and are at most `2 ^ 64`.  A
    recorder that refuses nothing holds the delegates of just these requests. -/
theorem numbering_by_controller (manager : Manager) (steps : List FleetStep) :
    let sent := (new manager).sent steps
    (∀ n k r, (Sent.requestsOf n sent)[k]? = some r → r.id.val.toNat = (k + 1) % UInt64.size) ∧
    ((sent.map (·.request.id)).Nodup ↔
      (∀ a ∈ sent, ∀ b ∈ sent, a.sender = b.sender) ∧ sent.length ≤ UInt64.size) ∧
    (manager = .recorder none [] →
      ((new manager).run steps).manager.submitted.map Delegate.request
        = sent.map Sent.request) := by
  intro sent
  have h : Numbered ((new manager).run steps) sent := (numbered_new manager).run steps
  refine ⟨?_, h.nodup_iff, ?_⟩
  · intro n k r hr
    have hid : ((Sent.requestsOf n sent).map Request.id)[k]? = some r.id := by
      rw [List.getElem?_map, hr]
      rfl
    rw [h.ids_eq, List.getElem?_map, Option.map_eq_some_iff] at hid
    obtain ⟨j, hj, hid⟩ := hid
    obtain ⟨hlt, rfl⟩ := List.getElem?_eq_some_iff.mp hj
    rw [← hid, RequestId.toNat_nth, List.getElem_range]
  · rintro rfl
    exact submitted_run _ [] rfl steps

/-- Two controllers over one recorder: each submits one request, and the recorder then holds two
    with the same number. -/
theorem two_controllers_one_number :
    let steps : List FleetStep :=
      [.create .standard .replace, .create .standard .replace, .submit 0 .activate,
        .submit 1 .deactivate]
    ((new (.recorder none [])).sent steps).length = 2 ∧
    ((new (.recorder none [])).run steps).manager.submitted.map Delegate.request
      = [⟨⟨1⟩, .activate, .standard⟩, ⟨⟨1⟩, .deactivate, .standard⟩] ∧
    ¬ (((new (.recorder none [])).sent steps).map (·.request.id)).Nodup := by
  decide

end Fleet
end DriverExtension
