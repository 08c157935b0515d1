import DriverExtension.Program.Run
import DriverExtension.Proofs.Bridge.Wait
import DriverExtension.Proofs.Lifecycle.Provenance

namespace DriverExtension

open Log

/-!
# What the command line answers

A request from the command line that was accepted is watched.  The wait looks at the stream whenever
it gets the turn; between two looks the system calls back on the delegate of the request, and events
of other requests arrive.

* `Watch.run` — a wait with what happens meanwhile;
* `Wait.outcome` — what a list of events says about a request: its first terminal event decides;
* `Watch.Tracks` — a wait that goes on has consumed only events that do not settle it, and one that
  is over has the verdict of all events so far;
* `Watch.Tracks.run`, `Watch.verdict_stable` — this holds along every wait, and a verdict is final;
* `Watch.returned?_eq` — what a wait returns, and when;
* `Program.exit_status` — the exit status of a request from the command line.
-/

/-- A wait for the outcome of an accepted request: the stream, and the verdict so far. -/
structure Watch where
  channel : Channel
  verdict : Verdict

/-- What happens during a wait. -/
inductive WatchStep where
  /-- The system calls back on the delegate of the request. -/
  | callback (callback : Callback)
  /-- An event arrives from elsewhere. -/
  | arrival (e : Event)
  /-- The wait gets the turn. -/
  | look

namespace Watch

/-- One thing that happens.  A wait that is over does not look any more. -/
def step (d : Delegate) (w : Watch) : WatchStep → Watch
  | .callback callback => { w with channel := (d.call callback w.channel).2.1 }
  | .arrival e => { w with channel := ((w.channel.send e).toOption).getD w.channel }
  | .look =>
    match w.verdict with
    | .waiting =>
      let (verdict, channel, _) := Attempt.look d.request true w.channel
      ⟨channel, verdict⟩
    | _ => w

/-- All that happens during a wait. -/
def run (d : Delegate) (w : Watch) (steps : List WatchStep) : Watch := steps.foldl (step d) w

/-- The event that something puts into the stream. -/
def sent? (d : Delegate) : WatchStep → Option Event
  | .callback callback => some (d.event callback)
  | .arrival e => some e
  | .look => none

end Watch

/-! ### The event that decides -/

namespace Wait

/-- What events say about a request: its first terminal event decides. -/
def outcome (id : RequestId) (events : List Event) : Verdict :=
  match events.find? (settles id) with
  | some e => (Reception.event e).verdict
  | none => .waiting

/-- An event that was received has a verdict. -/
theorem verdict_event_ne_waiting (e : Event) : (Reception.event e).verdict ≠ .waiting := by
  cases e <;> simp [Reception.verdict]

/-- What events say is decided by a finish, by a failure, or not at all. -/
theorem outcome_cases (id : RequestId) (events : List Event) :
    (events.find? (settles id) = none ∧ outcome id events = .waiting) ∨
    (∃ r result, events.find? (settles id) = some (.finished r result) ∧
      outcome id events = .succeeded) ∨
    (∃ r failure, events.find? (settles id) = some (.failed r failure) ∧
      outcome id events = .failed) := by
  unfold outcome
  cases hfind : events.find? (settles id) with
  | none => exact .inl ⟨rfl, rfl⟩
  | some e =>
    obtain ⟨hterminal, -⟩ := (settles_iff id e).mp (List.find?_some hfind)
    cases e with
    | replacementNeeded r existing replacement action => cases hterminal
    | approvalNeeded r => cases hterminal
    | finished r result => exact .inr (.inl ⟨r, result, rfl, rfl⟩)
    | failed r failure => exact .inr (.inr ⟨r, failure, rfl, rfl⟩)

/-- Events that do not settle the wait say nothing. -/
theorem outcome_append_of_unsettled (id : RequestId) (pre post : List Event)
    (h : ∀ x ∈ pre, ¬ settles id x) : outcome id (pre ++ post) = outcome id post := by
  have hnone : pre.find? (settles id) = none := by simpa using h
  simp [outcome, List.find?_append, hnone]

/-- A wait that is decided stays so, whatever else arrives. -/
theorem outcome_append_of_decided (id : RequestId) (pre post : List Event)
    (h : outcome id pre ≠ .waiting) : outcome id (pre ++ post) = outcome id pre := by
  unfold outcome at h ⊢
  rw [List.find?_append]
  cases hpre : pre.find? (settles id) with
  | some e => rfl
  | none => simp [hpre] at h

/-- Where nothing is decided, no event settles the wait. -/
theorem unsettled_of_outcome (id : RequestId) (events : List Event)
    (h : outcome id events = .waiting) : ∀ x ∈ events, ¬ settles id x := by
  unfold outcome at h
  cases hfind : events.find? (settles id) with
  | some e =>
    rw [hfind] at h
    exact absurd h (verdict_event_ne_waiting e)
  | none => simpa using hfind

/-- A look finds what the queue says, and leaves nothing in it that it does not decide on. -/
theorem poll_verdict (id : RequestId) (queue : List Event) :
    (poll true id queue).1.verdict = outcome id queue := by
  unfold outcome
  cases hfind : queue.find? (settles id) with
  | some e =>
    obtain ⟨he, pre, post, rfl, hpre⟩ := List.find?_eq_some_iff_append.mp hfind
    have hunsettled : ∀ x ∈ pre, ¬ settles id x := by simpa using hpre
    rw [poll_split true id pre e post hunsettled he]
  | none =>
    have hunsettled : ∀ x ∈ queue, ¬ settles id x := by simpa using hfind
    rw [poll_unsettled true id queue hunsettled]
    rfl

end Wait

/-! ### Along a wait -/

namespace Watch

/-- What holds of a wait after the events `events` have arrived: somebody listens; as long as it
    goes on, it has consumed only events that do not settle it; and when it is over, its verdict is
    what the events say. -/
structure Tracks (id : RequestId) (events : List Event) (w : Watch) : Prop where
  isOpen : w.channel.isOpen = true
  waiting : w.verdict = .waiting →
    ∃ seen, (∀ x ∈ seen, ¬ Wait.settles id x) ∧ events = seen ++ w.channel.queue
  decided : w.verdict ≠ .waiting → w.verdict = Wait.outcome id events

variable {d : Delegate} {events : List Event} {w : Watch}

/-- An event that arrives is queued, and changes no verdict. -/
theorem Tracks.arrive (h : Tracks d.request.id events w) (e : Event) :
    Tracks d.request.id (events ++ [e])
      { w with channel := { w.channel with queue := w.channel.queue ++ [e] } } where
  isOpen := h.isOpen
  waiting := by
    intro hw
    obtain ⟨seen, hseen, hevents⟩ := h.waiting hw
    exact ⟨seen, hseen, by rw [hevents, List.append_assoc]⟩
  decided := by
    intro hw
    have hverdict := h.decided hw
    have hne : Wait.outcome d.request.id events ≠ .waiting := hverdict ▸ hw
    rw [Wait.outcome_append_of_decided _ _ _ hne]
    exact hverdict

/-- A wait that goes on looks at what is queued. -/
theorem step_look_of_waiting (d : Delegate) (w : Watch) (h : w.verdict = .waiting) :
    w.step d .look
      = ⟨{ w.channel with queue := (Wait.poll true d.request.id w.channel.queue).2.1 },
          (Wait.poll true d.request.id w.channel.queue).1.verdict⟩ := by
  simp only [step, h, Attempt.look]

/-- A wait that is over does not look. -/
theorem step_look_of_decided (d : Delegate) (w : Watch) (h : w.verdict ≠ .waiting) :
    w.step d .look = w := by
  simp [step]

/-- After a look the verdict is what the events say. -/
theorem Tracks.look_verdict (h : Tracks d.request.id events w) :
    (w.step d .look).verdict = Wait.outcome d.request.id events := by
  by_cases hw : w.verdict = .waiting
  · obtain ⟨seen, hseen, rfl⟩ := h.waiting hw
    rw [Wait.outcome_append_of_unsettled _ _ _ hseen, ← Wait.poll_verdict,
      step_look_of_waiting d w hw]
  · rw [step_look_of_decided d w hw, h.decided hw]

/-- A look keeps track. -/
theorem Tracks.look (h : Tracks d.request.id events w) :
    Tracks d.request.id events (w.step d .look) := by
  by_cases hw : w.verdict = .waiting
  · refine ⟨?_, ?_, fun _ => h.look_verdict⟩
    · rw [step_look_of_waiting d w hw]
      exact h.isOpen
    · -- a look that decides nothing has consumed all there was
      intro hwaiting
      rw [h.look_verdict] at hwaiting
      have hunsettled := Wait.unsettled_of_outcome _ _ hwaiting
      obtain ⟨seen, hseen, rfl⟩ := h.waiting hw
      have hqueue : ∀ x ∈ w.channel.queue, ¬ Wait.settles d.request.id x :=
        fun x hx => hunsettled x (List.mem_append_right seen hx)
      refine ⟨seen ++ w.channel.queue, hunsettled, ?_⟩
      rw [step_look_of_waiting d w hw, Wait.poll_unsettled true _ _ hqueue, List.append_nil]
  · rwa [step_look_of_decided d w hw]

/-- Whatever happens keeps track. -/
theorem Tracks.step (h : Tracks d.request.id events w) (a : WatchStep) :
    Tracks d.request.id (events ++ (sent? d a).toList) (w.step d a) := by
  cases a with
  | callback callback =>
    have hcall := d.call_of_isOpen callback w.channel h.isOpen
    simp only [Watch.step, hcall]
    exact h.arrive (d.event callback)
  | arrival e =>
    have hsend : w.channel.send e = .ok { w.channel with queue := w.channel.queue ++ [e] } := by
      simp [Channel.send, h.isOpen]
    simp only [Watch.step, hsend]
    exact h.arrive e
  | look =>
    rw [sent?, Option.toList_none, List.append_nil]
    exact h.look

/-- **Along a wait.**  Whatever happens, the wait keeps track of all that has arrived. -/
theorem Tracks.run (h : Tracks d.request.id events w) (steps : List WatchStep) :
    Tracks d.request.id (events ++ steps.filterMap (sent? d)) (w.run d steps) := by
  induction steps generalizing events w with
  | nil => rwa [List.filterMap_nil, List.append_nil]
  | cons a rest ih =>
    have hrest := ih (h.step a)
    rw [List.append_assoc] at hrest
    have hsent : (sent? d a).toList ++ rest.filterMap (sent? d)
        = (a :: rest).filterMap (sent? d) := by
      rw [List.filterMap_cons]
      cases sent? d a <;> rfl
    rwa [hsent] at hrest

/-- A verdict that was reached is never changed. -/
theorem verdict_stable (d : Delegate) (w : Watch) (h : w.verdict ≠ .waiting)
    (steps : List WatchStep) : (w.run d steps).verdict = w.verdict := by
  induction steps generalizing w with
  | nil => rfl
  | cons a rest ih =>
    have hfirst : (w.step d a).verdict = w.verdict := by
      cases a with
      | callback callback => rfl
      | arrival e => rfl
      | look => rw [step_look_of_decided d w h]
    have hrest := ih (w.step d a) (by rwa [hfirst])
    exact hrest.trans hfirst

end Watch

/-! ### The answer of the program -/

/-- What a request from the command line returns of itself, as an exit status and a complaint; it
    does not return while it waits. -/
def Verdict.answer? (r : Request) : Verdict → Option (Nat × Option Complaint)
  | .waiting => none
  | v => some ((Program.conclude r v).1, (Program.conclude r v).2.2)

/-- A wait that has returned is over. -/
theorem Verdict.ne_waiting_of_answer? (r : Request) (v : Verdict)
    (answer : Nat × Option Complaint) (h : v.answer? r = some answer) : v ≠ .waiting := by
  rintro rfl
  cases h

/-- Only success has the exit status of success. -/
theorem Verdict.exit_eq_success (r : Request) (v : Verdict) :
    (Program.conclude r v).1 = Report.success ↔ v.answer? r = some (Report.success, none) := by
  cases v <;> simp [answer?, Program.conclude, Report.success, Report.failure]

/-- What a wait has returned, if anything. -/
def Watch.returned? (d : Delegate) (w : Watch) (steps : List WatchStep) :
    Option (Nat × Option Complaint) :=
  (w.run d steps).verdict.answer? d.request

/-- The first terminal event with the number of a request. -/
def Wait.first? (id : RequestId) (events : List Event) : Option Event :=
  events.find? fun e => e.isTerminal && e.request.id = id

/-- It is the first event that settles the wait. -/
theorem Wait.first?_eq (id : RequestId) (events : List Event) :
    first? id events = events.find? (settles id) := by
  rw [first?, settles_eq]

/-- A finish returns success, a failure returns failure, and nothing else returns. -/
theorem Wait.answer?_outcome (r : Request) (events : List Event) :
    ((outcome r.id events).answer? r = some (Report.success, none) ↔
      ∃ r' result, first? r.id events = some (.finished r' result)) ∧
    ((outcome r.id events).answer? r = some (Report.failure, none) ↔
      ∃ r' failure, first? r.id events = some (.failed r' failure)) ∧
    ((outcome r.id events).answer? r = none ↔ first? r.id events = none) := by
  rw [first?_eq]
  obtain ⟨hfirst, hout⟩ | ⟨r', result, hfirst, hout⟩ | ⟨r', failure, hfirst, hout⟩ :=
    outcome_cases r.id events <;>
  simp [hfirst, hout, Verdict.answer?, Program.conclude, Report.success, Report.failure]

/-- **The wait of a request.**  Of a wait with `events` in the stream: at its next turn it returns
    what the first terminal event of the request says; it does not return before there is one; and
    what it has returned stays, whatever comes later. -/
theorem Watch.returned?_eq (d : Delegate) (events : List Event) (others : List Bool)
    (steps : List WatchStep) :
    let w : Watch := ⟨⟨events, true :: others⟩, .waiting⟩
    let arrived := events ++ steps.filterMap (sent? d)
    w.returned? d (steps ++ [.look]) = (Wait.outcome d.request.id arrived).answer? d.request ∧
    (Wait.first? d.request.id arrived = none → w.returned? d steps = none) ∧
    ∀ answer, w.returned? d steps = some answer →
      ∀ later, w.returned? d (steps ++ later) = some answer := by
  intro w arrived
  have hstart : Tracks d.request.id events w :=
    ⟨rfl, fun _ => ⟨[], by simp [w]⟩, fun h => absurd rfl h⟩
  have htracks : Tracks d.request.id arrived (w.run d steps) := hstart.run steps
  have hrun (later : List WatchStep) : w.run d (steps ++ later) = (w.run d steps).run d later := by
    simp [run]
  refine ⟨?_, ?_, ?_⟩
  · rw [returned?, hrun]
    exact congrArg (Verdict.answer? d.request) htracks.look_verdict
  · intro hnone
    by_cases hw : (w.run d steps).verdict = .waiting
    · rw [returned?, hw]
      rfl
    · rw [returned?, htracks.decided hw]
      exact (Wait.answer?_outcome d.request arrived).2.2.mpr hnone
  · intro answer hanswer later
    have hdecided := Verdict.ne_waiting_of_answer? _ _ answer hanswer
    rw [returned?, hrun, verdict_stable d _ hdecided later]
    exact hanswer

namespace Attempt

/-- An accepted request is the one that was asked for, with the next number; a refused one is
    answered by the fault of the refusal. -/
theorem begin_result (c : Controller) (kind : RequestKind) (m : Manager) (channel : Channel) :
    (begin c kind m channel).1
      = (m.submit ⟨c.request kind, c.policy⟩ channel).1.map fun _ => c.request kind := rfl

/-- Submitting takes nothing from the stream. -/
theorem begin_channel (c : Controller) (kind : RequestKind) (m : Manager) (channel : Channel)
    (h : channel.isOpen = true) :
    (begin c kind m channel).2.2.2.1
      = { channel with queue := channel.queue ++ m.made ⟨c.request kind, c.policy⟩ } :=
  m.submit_channel _ channel h

section Begin

variable {c : Controller} {kind : RequestKind} {m m' : Manager} {channel channel' : Channel}
  {records : List Record}

/-- A submission that is refused logs itself and what the manager has logged. -/
theorem begin_of_error {f : Fault}
    (h : m.submit ⟨c.request kind, c.policy⟩ channel = (.error f, m', channel', records)) :
    begin c kind m channel
      = (.error f, c.advance, m', channel', c.submitting kind m :: records) := by
  simp [begin, Controller.submit, h, Except.map]

/-- A submission that is accepted also logs that it is waited for. -/
theorem begin_of_ok
    (h : m.submit ⟨c.request kind, c.policy⟩ channel = (.ok (), m', channel', records)) :
    begin c kind m channel
      = (.ok (c.request kind), c.advance, m', channel',
          c.submitting kind m :: records ++ [waiting (c.request kind)]) := by
  simp [begin, Controller.submit, h, Except.map]

end Begin

end Attempt

namespace Program

/-- The delegate of the only request that the command line submits. -/
def delegate (ready : Ready) (kind : RequestKind) : Delegate :=
  ⟨(Controller.new ready.setup.identifier ready.setup.policy).request kind, ready.setup.policy⟩

section Attempt

variable {ready : Ready} {m m' : Manager} {kind : RequestKind} {channel : Channel}
  {records : List Record}

/-- **A refused request.**  It ends the run with a complaint, and nothing is waited for. -/
theorem attempt_of_error {f : Fault}
    (h : m.submit (delegate ready kind) .new = (.error f, m', channel, records)) :
    attempt ready m kind
      = ⟨Report.failure,
          ready.filter.write (ready.setup.records m
            ++ (Controller.new ready.setup.identifier ready.setup.policy).submitting kind m
              :: records),
          ready.setup.warningText ++ (refusal kind f).message, ready.files⟩ := by
  simp only [attempt, Attempt.begin_of_error h]
  rfl

/-- **An accepted request.**  It ends the run with the verdict of a look at what the manager has
    sent. -/
theorem attempt_of_ok
    (h : m.submit (delegate ready kind) .new = (.ok (), m', channel, records)) :
    let r := (delegate ready kind).request
    let (verdict, _, seen) := Attempt.look r true channel
    let (exit, last, complaint) := conclude r verdict
    attempt ready m kind
      = ⟨exit,
          ready.filter.write (ready.setup.records m
            ++ (Controller.new ready.setup.identifier ready.setup.policy).submitting kind m
              :: records
            ++ Attempt.waiting r :: seen ++ last),
          ready.setup.warningText ++ (complaint.map Complaint.message).getD "", ready.files⟩ := by
  simp only [attempt, Attempt.begin_of_ok h]
  simp [delegate]

end Attempt

/-- A request that is accepted ends the run with the verdict on what the manager has sent. -/
theorem exit_attempt_of_ok (ready : Ready) (m : Manager) (kind : RequestKind)
    (h : (m.submit (delegate ready kind) .new).1 = .ok ()) :
    (attempt ready m kind).exit
      = (conclude (delegate ready kind).request (Wait.outcome (delegate ready kind).request.id
          (m.made (delegate ready kind)))).1 := by
  have hchannel := m.submit_channel (delegate ready kind) .new rfl
  rcases hsubmit : m.submit (delegate ready kind) .new with ⟨accepted, m', channel, records⟩
  rw [hsubmit] at h hchannel
  obtain rfl : accepted = .ok () := h
  have hqueue : channel.queue = m.made (delegate ready kind) := congrArg Channel.queue hchannel
  simp only [attempt_of_ok hsubmit, Attempt.look, hqueue, Wait.poll_verdict]

/-- **The exit status.**  A request from the command line, given to any manager while `queue` is in
    the stream already.
    If the manager accepts it, then in whatever order the system calls back, events of other
    requests arrive and the wait gets the turn, the first terminal event with the number of the
    request decides: the wait returns success exactly if that event is a finish and failure exactly
    if it is a failure, it does not return before there is one, and what it has returned stays.
    If the manager refuses it, its fault is returned, and nothing is taken from the stream.
    The whole program ends so too. -/
theorem exit_status (c : Controller) (kind : RequestKind) (m : Manager) (queue : List Event)
    (others : List Bool) :
    (let d : Delegate := ⟨c.request kind, c.policy⟩
    let start : Channel := ⟨queue, true :: others⟩
    let (result, _, _, channel, _) := Attempt.begin c kind m start
    ((m.submit d start).1 = .ok () →
      result = .ok d.request ∧
      ∀ steps,
        let wait := Watch.returned? d ⟨channel, .waiting⟩
        let first := Wait.first? d.request.id
          (queue ++ m.made d ++ steps.filterMap (Watch.sent? d))
        (wait (steps ++ [.look]) = some (Report.success, none) ↔
          ∃ r result, first = some (.finished r result)) ∧
        (wait (steps ++ [.look]) = some (Report.failure, none) ↔
          ∃ r failure, first = some (.failed r failure)) ∧
        (first = none → wait steps = none ∧ wait (steps ++ [.look]) = none) ∧
        ∀ answer, wait steps = some answer → ∀ later, wait (steps ++ later) = some answer) ∧
    ∀ f, (m.submit d start).1 = .error f →
      result = .error f ∧ channel = ⟨queue ++ m.made d, true :: others⟩) ∧
    (∀ ready : Ready,
      let d := delegate ready kind
      let report := attempt ready m kind
      ((m.submit d .new).1 = .ok () →
        (report.exit = Report.success ↔
          ∃ r result, Wait.first? d.request.id (m.made d) = some (.finished r result))) ∧
      ∀ f, (m.submit d .new).1 = .error f →
        report.exit = Report.failure ∧
        report.errors = ready.setup.warningText
          ++ (Complaint.mk s!"Failed to submit {kind} request" f.causes).message) := by
  refine ⟨?_, ?_⟩
  · intro d start
    have hresult := Attempt.begin_result c kind m start
    have hchannel := Attempt.begin_channel c kind m start rfl
    rcases hbegin : Attempt.begin c kind m start with ⟨result, c', m', channel, records⟩
    rw [hbegin] at hresult hchannel
    obtain rfl : channel = ⟨queue ++ m.made d, true :: others⟩ := hchannel
    refine ⟨?_, ?_⟩
    · intro hok
      refine ⟨hresult.trans (congrArg (Except.map _) hok), ?_⟩
      intro steps wait first
      obtain ⟨hlook, hbefore, hstable⟩ :=
        Watch.returned?_eq d (queue ++ m.made d) others steps
      obtain ⟨hsuccess, hfailure, hnone⟩ := Wait.answer?_outcome d.request
        (queue ++ m.made d ++ steps.filterMap (Watch.sent? d))
      rw [← hlook] at hsuccess hfailure hnone
      exact ⟨hsuccess, hfailure, fun h => ⟨hbefore h, hnone.mpr h⟩, hstable⟩
    · intro f herror
      exact ⟨hresult.trans (congrArg (Except.map _) herror), rfl⟩
  · intro ready d report
    refine ⟨?_, ?_⟩
    · intro hok
      have hexit : report.exit = _ := exit_attempt_of_ok ready m kind hok
      obtain ⟨hsuccess, -, -⟩ := Wait.answer?_outcome d.request (m.made d)
      exact (hexit ▸ Verdict.exit_eq_success d.request _).trans hsuccess
    · intro f herror
      rcases hsubmit : m.submit d .new with ⟨accepted, m', channel, records⟩
      rw [hsubmit] at herror
      obtain rfl : accepted = .error f := herror
      have hreport : report = _ := attempt_of_error hsubmit
      rw [hreport]
      exact ⟨rfl, rfl⟩

end Program
end DriverExtension
