import DriverExtension.Proofs.Bridge.Conservation
import Mathlib.Data.List.Induction

namespace DriverExtension

open Log

/-!
# Waiting for several requests in turn

A wait passes over the events of other requests, and what it has passed over is gone for whoever
waits next.  So it depends on the order of the terminal events which waits are answered.

* `Wait.outcomes`, `Wait.place` — the terminal events of a request in a queue, and the place of the
  first of them;
* `Wait.poll_drop_of_le`, `Wait.unsettled_drop_of_lt` — a wait that finds the queue without its
  first events: it is answered if these end before the place, and otherwise nothing settles it;
* `Bridge.waits` — waits for some requests, one after the other;
* `Bridge.waits_of_increasing`, `Bridge.waits_of_unsettled` — waits in the order of the places are
  all answered; from a wait on that nothing settles, none is;
* `Bridge.waits_in_turn` — the account of all waits.
-/

/-- A list that does not increase has a first place where it does not. -/
theorem exists_first_descent {α : Type} (f : α → Nat) (l : List α)
    (h : ¬ l.Pairwise (f · < f ·)) :
    ∃ pre a b post, l = pre ++ a :: b :: post ∧ (pre ++ [a]).Pairwise (f · < f ·) ∧
      ¬ f a < f b := by
  -- from the back: the descent is where it was, or the last entry makes it
  induction l using List.reverseRecOn with
  | nil => exact absurd List.Pairwise.nil h
  | append_singleton l x ih =>
    by_cases hl : l.Pairwise (f · < f ·)
    · obtain rfl | ⟨pre, a, rfl⟩ := List.eq_nil_or_concat l
      · exact absurd (List.pairwise_singleton _ x) h
      · rw [List.concat_eq_append] at hl h ⊢
        refine ⟨pre, a, x, [], by simp, hl, ?_⟩
        intro hax
        have hbelow : ∀ y ∈ pre ++ [a], f y < f x := by
          intro y hy
          rcases List.mem_append.mp hy with hy | hy
          · have hya := (List.pairwise_append.mp hl).2.2 y hy a (List.mem_singleton_self a)
            omega
          · rwa [List.mem_singleton.mp hy]
        refine h (List.pairwise_append.mpr ⟨hl, List.pairwise_singleton _ x, ?_⟩)
        intro y hy z hz
        rw [List.mem_singleton.mp hz]
        exact hbelow y hy
    · obtain ⟨pre, a, b, post, rfl, hpre, hab⟩ := ih hl
      exact ⟨pre, a, b, post ++ [x], by simp, hpre, hab⟩

namespace Wait

/-- The terminal events of a request in a queue. -/
def outcomes (q : List Event) (r : Request) : List Event :=
  q.filter fun e => e.isTerminal && e.request.id = r.id

/-- The place of the first terminal event of a request; without one, the length of the queue. -/
def place (q : List Event) (r : Request) : Nat :=
  q.findIdx fun e => e.isTerminal && e.request.id = r.id

/-- A request with one terminal event has it at its place. -/
theorem split_of_outcomes (q : List Event) (r : Request) (h : (outcomes q r).length = 1) :
    ∃ pre e post, q = pre ++ e :: post ∧ pre.length = place q r ∧ outcomes q r = [e] ∧
      settles r.id e ∧ (∀ x ∈ pre, ¬ settles r.id x) ∧ ∀ x ∈ post, ¬ settles r.id x := by
  obtain ⟨e, he⟩ := List.length_eq_one_iff.mp h
  unfold outcomes at he
  rw [← settles_eq] at he
  obtain ⟨pre, post, rfl, hpre, hsettles, hpost⟩ := List.filter_eq_cons_iff.mp he
  refine ⟨pre, e, post, rfl, ?_, ?_, hsettles, hpre, List.filter_eq_nil_iff.mp hpost⟩
  · have hnone : pre.findIdx (settles r.id) = pre.length :=
      List.findIdx_eq_length_of_false fun x hx => Bool.eq_false_iff.mpr (hpre x hx)
    rw [place, ← settles_eq, List.findIdx_append, hnone, if_neg (Nat.lt_irrefl _),
      List.findIdx_cons, hsettles]
    exact (Nat.zero_add _).symm
  · rw [outcomes, ← settles_eq, he]

/-- **Not yet passed.**  A wait that finds the queue from some place on is answered by the only
    terminal event of its request if that stands there, and leaves what stands behind it. -/
theorem poll_drop_of_le (sinks : Bool) (q : List Event) (r : Request) (n : Nat)
    (h : (outcomes q r).length = 1) (hn : n ≤ place q r) :
    ∃ e, outcomes q r = [e] ∧ (poll sinks r.id (q.drop n)).1 = .event e ∧
      (poll sinks r.id (q.drop n)).2.1 = q.drop (place q r + 1) := by
  obtain ⟨pre, e, post, hq, hplace, houtcomes, he, hpre, -⟩ := split_of_outcomes q r h
  have hfront : q.drop n = pre.drop n ++ e :: post := by
    rw [hq, List.drop_append_of_le_length (by omega)]
  have hback : q.drop (place q r + 1) = post := by
    rw [← hplace, hq, List.drop_append, Nat.add_sub_cancel_left,
      List.drop_eq_nil_of_le (by omega)]
    rfl
  have hskip : ∀ x ∈ pre.drop n, ¬ settles r.id x :=
    fun x hx => hpre x (List.mem_of_mem_drop hx)
  refine ⟨e, houtcomes, ?_⟩
  rw [hback, hfront, poll_split sinks r.id _ e post hskip he]
  exact ⟨rfl, rfl⟩

/-- **Passed.**  Behind the only terminal event of a request nothing settles a wait for it. -/
theorem unsettled_drop_of_lt (q : List Event) (r : Request) (n : Nat)
    (h : (outcomes q r).length = 1) (hn : place q r < n) :
    ∀ x ∈ q.drop n, ¬ settles r.id x := by
  obtain ⟨pre, e, post, hq, hplace, -, -, -, hpost⟩ := split_of_outcomes q r h
  intro x hx
  rw [hq, List.drop_append, List.drop_eq_nil_of_le (by omega), List.nil_append] at hx
  obtain ⟨k, hk⟩ : ∃ k, n - pre.length = k + 1 := ⟨n - pre.length - 1, by omega⟩
  rw [hk, List.drop_succ_cons] at hx
  exact hpost x (List.mem_of_mem_drop hx)

/-- Where the places of some requests do not increase, there is a first request whose terminal event
    stands before that of the one before it. -/
theorem exists_descent (q : List Event) (rs : List Request) (hids : (rs.map (·.id)).Nodup)
    (hone : ∀ r ∈ rs, (outcomes q r).length = 1)
    (h : ¬ rs.Pairwise (place q · < place q ·)) :
    ∃ answered previous r later, rs = answered ++ previous :: r :: later ∧
      (answered ++ [previous]).Pairwise (place q · < place q ·) ∧ place q r < place q previous := by
  obtain ⟨answered, previous, r, later, rfl, hrs, hnot⟩ := exists_first_descent (place q) rs h
  refine ⟨answered, previous, r, later, rfl, hrs, ?_⟩
  -- one event cannot be the terminal event of both, since their numbers differ
  have hne : place q r ≠ place q previous := by
    intro heq
    obtain ⟨pre, e, post, hq, hlen, -, he, -⟩ := split_of_outcomes q r (hone r (by simp))
    obtain ⟨pre', e', post', hq', hlen', -, he', -⟩ :=
      split_of_outcomes q previous (hone previous (by simp))
    have hlength : pre.length = pre'.length := by omega
    obtain ⟨-, htail⟩ := List.append_inj (hq.symm.trans hq') hlength
    obtain rfl : e = e' := (List.cons.inj htail).1
    have hid : previous.id = r.id :=
      ((settles_iff _ _).mp he').2.symm.trans ((settles_iff _ _).mp he).2
    simp [List.nodup_append, hid] at hids
  omega

end Wait

namespace Bridge

/-- Waits for some requests, one after the other, through the stream of a slot. -/
def waits (slot : Nat) (rs : List Request) : List BridgeStep :=
  rs.map fun r => .stream slot (.wait r.id)

/-- A bridge with another queue. -/
def withQueue (b : Bridge) (q : List Event) : Bridge :=
  { b with channel := { b.channel with queue := q } }

/-- A wait that nothing settles ends without an event. -/
def unanswered (b : Bridge) : Reply := .received (if b.hasSinks then .pending else .closed)

/-- Such a wait hands over nothing. -/
theorem events_unanswered (b : Bridge) : b.unanswered.events = [] := by
  unfold unanswered
  cases b.hasSinks <;> rfl

variable {b : Bridge} {slot : Nat}

/-- A wait looks at the queue and changes nothing else. -/
theorem step_wait (hs : b.channel.hasStream slot = true) (id : RequestId) :
    b.step (.stream slot (.wait id))
      = (.received (Wait.poll b.hasSinks id b.channel.queue).1,
        b.withQueue (Wait.poll b.hasSinks id b.channel.queue).2.1,
        (Wait.poll b.hasSinks id b.channel.queue).2.2) := by
  rw [step_stream]
  unfold Channel.stream
  rw [hs]
  rfl

/-- The first of several waits, and then the others on what it leaves. -/
theorem replies_waits_cons (hs : b.channel.hasStream slot = true) (q : List Event) (r : Request)
    (rs : List Request) :
    (b.withQueue q).replies (waits slot (r :: rs))
      = .received (Wait.poll b.hasSinks r.id q).1 ::
        (b.withQueue (Wait.poll b.hasSinks r.id q).2.1).replies (waits slot rs) ∧
    (b.withQueue q).run (waits slot (r :: rs))
      = (b.withQueue (Wait.poll b.hasSinks r.id q).2.1).run (waits slot rs) := by
  have hstep := step_wait (b := b.withQueue q) hs r.id
  constructor
  · rw [replies, waits, List.map_cons, Trace.collect_cons, next, hstep]
    rfl
  · rw [run, waits, List.map_cons, List.foldl_cons, hstep]
    rfl

/-- **In order.**  Waits that stand in the order of the places of their terminal events, none of
    which has been passed, are all answered, and leave the queue from behind the last place on. -/
theorem waits_of_increasing (hs : b.channel.hasStream slot = true) (q : List Event)
    (rs : List Request) (hone : ∀ r ∈ rs, (Wait.outcomes q r).length = 1)
    (hrs : rs.Pairwise (Wait.place q · < Wait.place q ·)) (n : Nat)
    (hn : ∀ r ∈ rs, n ≤ Wait.place q r) :
    ((b.withQueue (q.drop n)).replies (waits slot rs)).map Reply.events
      = rs.map (Wait.outcomes q) ∧
    ∃ m, n ≤ m ∧ (b.withQueue (q.drop n)).run (waits slot rs) = b.withQueue (q.drop m) ∧
      ∀ r ∈ rs, Wait.place q r < m := by
  -- on the requests, for every place that the waits before have reached
  induction rs generalizing n with
  | nil => exact ⟨rfl, n, Nat.le_refl n, rfl, fun r hr => nomatch hr⟩
  | cons r rs ih =>
    obtain ⟨hfirst, hrest⟩ := List.pairwise_cons.mp hrs
    have hr : n ≤ Wait.place q r := hn r List.mem_cons_self
    obtain ⟨e, houtcomes, hanswer, hleft⟩ :=
      Wait.poll_drop_of_le b.hasSinks q r n (hone r List.mem_cons_self) hr
    obtain ⟨hreplies, m, hle, hrun, hm⟩ :=
      ih (fun x hx => hone x (List.mem_cons_of_mem r hx)) hrest (Wait.place q r + 1) hfirst
    obtain ⟨hcons, hruncons⟩ := replies_waits_cons hs (q.drop n) r rs
    rw [hcons, hruncons, hanswer, hleft, List.map_cons, List.map_cons, hreplies, houtcomes]
    refine ⟨rfl, m, by omega, hrun, ?_⟩
    intro x hx
    rcases List.mem_cons.mp hx with rfl | hx
    · omega
    · exact hm x hx

/-- On an empty queue no wait is answered, and it stays empty. -/
theorem waits_of_empty (hs : b.channel.hasStream slot = true) (rs : List Request) :
    (b.withQueue []).replies (waits slot rs) = rs.map (fun _ => b.unanswered) ∧
    (b.withQueue []).run (waits slot rs) = b.withQueue [] := by
  induction rs with
  | nil => exact ⟨rfl, rfl⟩
  | cons r rs ih =>
    obtain ⟨hcons, hruncons⟩ := replies_waits_cons hs [] r rs
    rw [hcons, hruncons, List.map_cons]
    exact ⟨congrArg (b.unanswered :: ·) ih.1, ih.2⟩

/-- **Out of order.**  From a wait on that nothing in the queue settles, no wait is answered, and
    the queue is empty. -/
theorem waits_of_unsettled (hs : b.channel.hasStream slot = true) (q : List Event) (r : Request)
    (hq : ∀ x ∈ q, ¬ Wait.settles r.id x) (rs : List Request) :
    (b.withQueue q).replies (waits slot (r :: rs)) = (r :: rs).map (fun _ => b.unanswered) ∧
    (b.withQueue q).run (waits slot (r :: rs)) = b.withQueue [] := by
  obtain ⟨hcons, hruncons⟩ := replies_waits_cons hs q r rs
  obtain ⟨hreplies, hrun⟩ := waits_of_empty hs rs
  rw [hcons, hruncons, Wait.poll_unsettled b.hasSinks r.id q hq, hreplies, hrun, List.map_cons]
  exact ⟨rfl, rfl⟩

/-- **At a descent.**  Let the places increase over some requests, and let the terminal event of the
    next request stand before that of the last of these.  The waits for the former are answered, and
    from the wait for the latter on none is. -/
theorem waits_of_descent (hs : b.channel.hasStream slot = true) (q : List Event)
    (answered : List Request) (previous r : Request) (later : List Request)
    (hone : ∀ x ∈ answered ++ previous :: r :: later, (Wait.outcomes q x).length = 1)
    (hrs : (answered ++ [previous]).Pairwise (Wait.place q · < Wait.place q ·))
    (hlt : Wait.place q r < Wait.place q previous) :
    (∃ first, (b.withQueue q).replies (waits slot (answered ++ previous :: r :: later))
        = first ++ (r :: later).map (fun _ => b.unanswered) ∧
      first.map Reply.events = (answered ++ [previous]).map (Wait.outcomes q)) ∧
    (b.withQueue q).run (waits slot (answered ++ previous :: r :: later)) = b.withQueue [] := by
  have hfront : ∀ x ∈ answered ++ [previous], (Wait.outcomes q x).length = 1 := by
    intro x hx
    refine hone x ?_
    rw [List.append_cons]
    exact List.mem_append_left _ hx
  obtain ⟨hreplies, m, -, hrun, hm⟩ :=
    waits_of_increasing hs q _ hfront hrs 0 fun _ _ => Nat.zero_le _
  rw [List.drop_zero] at hreplies hrun
  -- the wait for `previous` has gone past the terminal event of `r`
  have hprevious : Wait.place q previous < m := hm previous (by simp)
  have hpassed := Wait.unsettled_drop_of_lt q r m (hone r (by simp)) (by omega)
  obtain ⟨hunanswered, hempty⟩ := waits_of_unsettled hs (q.drop m) r hpassed later
  have hsplit : waits slot (answered ++ previous :: r :: later)
      = waits slot (answered ++ [previous]) ++ waits slot (r :: later) := by
    simp [waits]
  rw [hsplit, run_append, replies_append, hrun, hunanswered]
  exact ⟨⟨_, rfl, hreplies⟩, hempty⟩

/-- **Waiting in turn.**  Let a queue hold exactly one terminal event for each of some requests with
    different numbers, among any other events, and let the requests be waited for one after the
    other.  All waits are answered, each by the terminal event of its request, if and only if these
    events stand in the queue in the order of the waits.  Otherwise there is a first request `r`
    whose terminal event stands before that of the request waited for just before: the waits up to
    there are answered, the wait for `r` is the first that is not, nor is any wait after it, and
    from then on the queue is empty. -/
theorem waits_in_turn (b : Bridge) (slot : Nat) (rs : List Request)
    (hs : b.channel.hasStream slot = true) (hids : (rs.map (·.id)).Nodup)
    (hone : ∀ r ∈ rs, (Wait.outcomes b.channel.queue r).length = 1) :
    let q := b.channel.queue
    let answers := b.replies (waits slot rs)
    (answers.map Reply.events = rs.map (Wait.outcomes q) ↔
      rs.Pairwise (Wait.place q · < Wait.place q ·)) ∧
    (¬ rs.Pairwise (Wait.place q · < Wait.place q ·) →
      ∃ answered previous r later, rs = answered ++ previous :: r :: later ∧
        (answered ++ [previous]).Pairwise (Wait.place q · < Wait.place q ·) ∧
        Wait.place q r < Wait.place q previous ∧
        (∃ first, answers = first ++ (r :: later).map (fun _ => b.unanswered) ∧
          first.map Reply.events = (answered ++ [previous]).map (Wait.outcomes q)) ∧
        ∀ k, (b.run (waits slot (answered ++ previous :: r :: later.take k))).channel.queue
          = []) := by
  intro q answers
  refine ⟨⟨?_, ?_⟩, ?_⟩
  · intro hall
    by_contra h
    obtain ⟨answered, previous, r, later, rfl, hrs, hlt⟩ := Wait.exists_descent q rs hids hone h
    obtain ⟨⟨first, hanswers, hfirst⟩, -⟩ :=
      waits_of_descent hs q answered previous r later hone hrs hlt
    -- the wait for `r` hands over nothing, but each request has a terminal event
    have hmem : b.unanswered ∈ answers := by
      show b.unanswered ∈ (b.withQueue q).replies _
      rw [hanswers]
      exact List.mem_append_right first List.mem_cons_self
    have hnil := List.mem_map_of_mem (f := Reply.events) hmem
    rw [hall, events_unanswered] at hnil
    obtain ⟨x, hx, hempty⟩ := List.mem_map.mp hnil
    have hlength := hone x hx
    rw [hempty] at hlength
    cases hlength
  · intro hrs
    exact (waits_of_increasing hs q rs hone hrs 0 fun _ _ => Nat.zero_le _).1
  · intro h
    obtain ⟨answered, previous, r, later, rfl, hrs, hlt⟩ := Wait.exists_descent q rs hids hone h
    refine ⟨answered, previous, r, later, rfl, hrs, hlt, ?_, ?_⟩
    · exact (waits_of_descent hs q answered previous r later hone hrs hlt).1
    · intro k
      have hsub : (previous :: r :: later.take k).Sublist (previous :: r :: later) :=
        ((List.take_sublist k later).cons_cons r).cons_cons previous
      have honek : ∀ x ∈ answered ++ previous :: r :: later.take k,
          (Wait.outcomes q x).length = 1 :=
        fun x hx => hone x (((List.Sublist.refl answered).append hsub).subset hx)
      have hrun := (waits_of_descent hs q answered previous r (later.take k) honek hrs hlt).2
      exact congrArg (·.channel.queue) hrun

/-- Two waits against the order of their outcomes: the first consumes the outcome of the second. -/
theorem waits_in_turn_crossed :
    let r₁ : Request := ⟨⟨1⟩, .activate, .standard⟩
    let r₂ : Request := ⟨⟨2⟩, .deactivate, .standard⟩
    let b : Bridge :=
      ⟨⟨[.finished r₂ .completed, .approvalNeeded r₁, .finished r₁ .completed], [true]⟩, [true]⟩
    b.channel.hasStream 0 = true ∧ ([r₁, r₂].map (·.id)).Nodup ∧
    (∀ r ∈ [r₁, r₂], (Wait.outcomes b.channel.queue r).length = 1) ∧
    (b.replies (waits 0 [r₁, r₂])).map Reply.events
      ≠ [r₁, r₂].map (Wait.outcomes b.channel.queue) := by
  intro r₁ r₂ b
  have hs : b.channel.hasStream 0 = true := rfl
  have hids : ([r₁, r₂].map (·.id)).Nodup := by decide
  have hone : ∀ r ∈ [r₁, r₂], (Wait.outcomes b.channel.queue r).length = 1 := by decide
  refine ⟨hs, hids, hone, ?_⟩
  rw [Ne, (waits_in_turn b 0 [r₁, r₂] hs hids hone).1]
  decide

end Bridge
end DriverExtension
