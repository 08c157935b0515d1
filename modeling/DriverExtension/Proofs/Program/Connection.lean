import DriverExtension.Proofs.Console.Turns
import DriverExtension.Proofs.Lifecycle.Sinks
import DriverExtension.Proofs.Program.Outcome
import DriverExtension.Proofs.Program.Sitting

namespace DriverExtension

open Log Terminal

/-!
# The connection to the manager

A request from the command line and the console both keep their controller until they are done, and
a controller keeps a sink.  So neither ever sees its stream fail.

* `Session.controller_after` — who keeps the controller;
* `Attempt.look_ne_lost` — a look loses the connection only where no sink is left;
* `Program.errors_attempt` — what a request from the command line complains about;
* `Console.connected_run` — a console keeps its connection, and so does a sitting, which is a run;
* `connection_kept` — all of this for the sinks of any session.
-/

namespace Session

/-- As long as no turn drops the controller, it stays. -/
theorem controller_after (s : Session) (turns : List SessionTurn)
    (h : .operation .dropController ∉ turns) :
    (s.after turns).controller.isSome = s.controller.isSome := by
  induction turns generalizing s with
  | nil => rfl
  | cons t rest ih =>
    obtain ⟨ht, hrest⟩ := not_or.mp (mt List.mem_cons.mpr h)
    refine (ih (s.turn t) hrest).trans ?_
    cases t with
    | refusal reason => rfl
    | operation a => exact s.isSome_controller_next a fun ha => ht (ha ▸ rfl)

/-- A session with a controller has a sink. -/
theorem hasSinks_of_controller (s : Session) (h : s.controller.isSome = true) :
    s.hasSinks = true :=
  s.hasSinks_iff_sinks.mpr (s.sinks_pos_of_controller h)

end Session

/-! ### A request from the command line -/

/-- Only a failed reception loses the connection. -/
theorem Reception.closed_of_verdict (r : Reception) (f : Fault) (h : r.verdict = .lost f) :
    r = .closed := by
  cases r with
  | event e => cases e <;> cases h
  | pending => cases h
  | closed => rfl

/-- As long as some sink is left, a look does not lose the connection. -/
theorem Attempt.look_ne_lost (r : Request) (c : Channel) (f : Fault) :
    (look r true c).1 ≠ .lost f := by
  intro hlost
  have hverdict : (Wait.poll true r.id c.queue).1.verdict = .lost f := hlost
  have hclosed := Reception.closed_of_verdict _ f hverdict
  exact absurd ((Wait.poll_eq_closed_iff true r.id c.queue).mp hclosed).1 Bool.noConfusion

namespace Program

/-- The end of an attempt has a complaint only where the connection was lost. -/
theorem complaint_conclude (r : Request) (v : Verdict) (h : ∀ f, v ≠ .lost f) :
    (conclude r v).2.2 = none := by
  cases v with
  | lost f => exact absurd rfl (h f)
  | _ => rfl

/-- An accepted request from the command line ends without a complaint. -/
theorem errors_attempt (ready : Ready) (m : Manager) (kind : RequestKind)
    (h : (m.submit (delegate ready kind) .new).1 = .ok ()) :
    (attempt ready m kind).errors = ready.setup.warningText := by
  rcases hsubmit : m.submit (delegate ready kind) .new with ⟨accepted, m', channel, records⟩
  rw [hsubmit] at h
  obtain rfl : accepted = .ok () := h
  have hcomplaint := complaint_conclude (delegate ready kind).request _
    (Attempt.look_ne_lost (delegate ready kind).request channel)
  simp [attempt_of_ok hsubmit, hcomplaint]

end Program

/-! ### The console -/

namespace Console

/-- The session that a console runs: its controller, manager and channel. -/
def session (c : Console) : Session :=
  ⟨c.channel, some c.controller, c.manager, false, []⟩

@[simp] theorem hasSinks_checkQuit (c : Console) : c.checkQuit.hasSinks = c.hasSinks := by
  unfold checkQuit; split <;> rfl

@[simp] theorem hasSinks_act (s : Signal) (c : Console) : (act s c).hasSinks = c.hasSinks := by
  cases s <;> rfl

/-- A step neither makes nor drops the last sink, and reports the stream as failed only where it
    was left. -/
theorem connected_step (c : Console) (h : c.hasSinks = true) (time : Nat) (s : ConsoleStep) :
    (c.step time s).1.hasSinks = true ∧ .disconnection ∉ (c.step time s).2 := by
  unfold step
  split
  · simp [h]
  cases s with
  | signal s => simp [h]
  | hangUp => simp [h]
  | manager m => simp [h]
  | drawFailure cause => simp [h]
  | callback n callback =>
    simp only [Console.callback]
    cases c.manager.submitted[n]? <;> simp [h]
  | turn pick =>
    cases hp : c.panel.pending with
    | some kind => simp [turn, Panel.takePending, hp, submit, h]
    | none =>
      cases pick with
      | terminal =>
        cases hs : c.signals with
        | cons s rest =>
          simp only [turn, Panel.takePending, hp, take, takeSignal, hs, hasSinks_checkQuit,
            hasSinks_act]
          simp [h]
        | nil =>
          simp only [turn, Panel.takePending, hp, take, takeSignal, hs]
          cases c.attached <;> simp [h]
      | stream =>
        cases hq : c.channel.queue <;> simp [turn, Panel.takePending, hp, take, receive, hq, h]

/-- **A console keeps its connection.** -/
theorem connected_run (c : Console) (h : c.hasSinks = true) (steps : List (Nat × ConsoleStep)) :
    (c.run steps).1.hasSinks = true ∧ .disconnection ∉ (c.run steps).2 := by
  induction steps generalizing c with
  | nil => exact ⟨h, List.not_mem_nil⟩
  | cons a rest ih =>
    obtain ⟨hfirst, hnone⟩ := c.connected_step h a.1 a.2
    obtain ⟨hrest, hnone'⟩ := ih (c.step a.1 a.2).1 hfirst
    exact ⟨hrest, mt List.mem_append.mp (not_or.mpr ⟨hnone, hnone'⟩)⟩

end Console

/-- **The connection is kept.**  After any turns of a session over any manager, with submissions
    accepted or refused and copies of delegates cloned or dropped in any order:
    the sinks that are left and those that were dropped are the first one, those of delegates that
    were recorded before, and those that were made, and a refused submission leaves none behind;
    an operation on a stream fails exactly if it receives or waits, no sink is left, and the queue
    has nothing for it;
    so as long as the controller is there, which only dropping it can end, no operation on a stream
    fails, and a request from the command line never ends with a lost connection;
    and once the controller and all delegates are gone, whatever follows only takes from the front
    of the queue, and receiving over and over gives the rest of it in order before it fails.
    A request from the command line that was accepted ends without a complaint, and a console never
    finds its stream closed, in any run and in any sitting. -/
theorem connection_kept (identifier : Identifier) (policy : ReplacementPolicy)
    (manager : Manager) :
    (∀ turns,
      let start := Session.new identifier policy manager
      let s := start.after turns
      (s.sinks + start.dropped turns = 1 + manager.submitted.length + start.made turns ∧
        (s.hasSinks = true ↔ 0 < s.sinks) ∧
        ∀ kind f, (s.step (.submit kind)).1 = .submitted (.error f) →
          (s.next (.submit kind)).sinks = s.sinks) ∧
      (∀ slot a, (s.step (.stream slot a)).1 = .stream (.received .closed) ↔
        s.channel.hasStream slot = true ∧ s.sinks = 0 ∧
          (a = .receive ∧ s.channel.queue = [] ∨
            ∃ id, a = .wait id ∧
              ∀ e ∈ s.channel.queue, ¬ (e.isTerminal = true ∧ e.request.id = id))) ∧
      (.operation .dropController ∉ turns → s.controller.isSome = true) ∧
      (s.controller.isSome = true →
        (∀ slot a r, (s.step (.stream slot a)).1 = .stream (.received r) →
          ∀ f, r.result? ≠ some (.error f)) ∧
        ∀ r, let verdict := (Attempt.look r s.hasSinks s.channel).1
          (∀ f, verdict ≠ .lost f) ∧ (Program.conclude r verdict).2.2 = none) ∧
      (s.controller = none → s.held = [] → (∀ d, some d ∉ s.copies) → ∀ later,
        let s' := s.after later
        s.taken later ++ s'.channel.queue = s.channel.queue ∧
        ∀ slot, s'.channel.hasStream slot = true →
          s'.replies (List.replicate (s'.channel.queue.length + 1) (.stream slot .receive))
            = s'.channel.queue.map (fun e => .stream (.received (.event e)))
              ++ [.stream (.received .closed)])) ∧
    (∀ ready kind, (manager.submit (Program.delegate ready kind) .new).1 = .ok () →
      (Program.attempt ready manager kind).errors = ready.setup.warningText) ∧
    (∀ steps,
      let (c, effects) := (Console.new identifier policy manager).run steps
      c.hasSinks = c.session.hasSinks ∧ .disconnection ∉ effects) ∧
    ∀ happenings,
      let (s, shown) := Sitting.start (Console.new identifier policy manager)
      .disconnection ∉ shown ++ (s.run happenings).2 := by
  refine ⟨?_, ?_, ?_, ?_⟩
  · intro turns start s
    have hclosed := s.step_stream_closed_iff
    refine ⟨⟨?_, s.hasSinks_iff_sinks, s.sinks_of_refused⟩, ?_,
      start.controller_after turns, ?_, ?_⟩
    · have hstart : start.sinks = 1 + manager.submitted.length := by
        rw [Session.sinks_eq]
        rfl
      have hbalance := start.sinks_along turns
      rwa [hstart] at hbalance
    · intro slot a
      rw [hclosed slot a]
      simp only [Wait.settles_iff]
    · intro hcontroller
      have hpos := s.sinks_pos_of_controller hcontroller
      refine ⟨?_, ?_⟩
      · rintro slot a r hr f hf
        -- only a failed reception returns a fault
        have hr' : r = .closed := by
          cases r with
          | closed => rfl
          | _ => cases hf
        rw [hr'] at hr
        have hzero := ((hclosed slot a).mp hr).2.1
        omega
      · intro r verdict
        have hlook : ∀ f, verdict ≠ .lost f := by
          intro f
          have hsinks := s.hasSinks_of_controller hcontroller
          simp only [verdict, hsinks]
          exact Attempt.look_ne_lost r s.channel f
        exact ⟨hlook, Program.complaint_conclude r verdict hlook⟩
    · intro hcontroller hheld hcopies later s'
      have hzero : s.sinks = 0 := s.sinks_eq_zero_iff.mpr ⟨hcontroller, hheld, hcopies⟩
      obtain ⟨hzero', hqueue⟩ := s.after_last_sink hzero later
      refine ⟨hqueue, ?_⟩
      intro slot hs
      have hreplies := s'.replies_receive slot hs
      rwa [if_pos hzero'] at hreplies
  · intro ready kind hok
    exact Program.errors_attempt ready manager kind hok
  · intro steps
    obtain ⟨hsinks, hnone⟩ :=
      (Console.new identifier policy manager).connected_run rfl steps
    exact ⟨hsinks, hnone⟩
  · intro happenings
    obtain ⟨steps, hsteps⟩ :=
      Sitting.exists_steps (Console.new identifier policy manager) happenings
    obtain ⟨-, hnone⟩ := (Console.new identifier policy manager).connected_run rfl steps
    rwa [hsteps] at hnone

end DriverExtension
