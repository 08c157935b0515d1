import DriverExtension.Console.Loop
import DriverExtension.Proofs.Lifecycle.Provenance

namespace DriverExtension

open Log Terminal

/-!
# The turns of the console

Keys, signals, callbacks and turns come in any order, and a turn may take from either queue.

* `Key.pressed?`, `Key.isQuit` — which keys press a button, and which quit;
* `Console.pressed` — the kinds that a run is asked for by the keys that it acts on, in order;
* `Console.arrived`, `Console.sent` — the signals that arrive in a run, and the events that
  callbacks put into its stream, in order;
* `Console.Move` — what one step of a running console can be;
* `Console.acted_append_signals`, `Console.submitted_append_pending`, `Console.shown_append_queue` —
  the terminal, the slot of the pending request and the stream are in balance at every moment;
* `Console.turn_pending` — while a request is pending, the next turn submits it and nothing else;
* `Console.turn_terminal`, `Console.turn_stream` — else a turn takes the first thing from its queue;
* `Console.run_stopped` — nothing happens to a console that has stopped;
* `Console.run_account` — the account of a whole run.
-/

/-! ### Keys -/

/-- The request that a key asks for while the buttons are live; `focus` is the selected button. -/
def Key.pressed? (k : Key) (focus : Button) : Option RequestKind :=
  match k.code with
  | .enter | .char ' ' => some focus.kind
  | .char 'i' => some .activate
  | .char 'u' => some .deactivate
  | _ => Option.none

/-- Whether a key asks to quit. -/
def Key.isQuit (k : Key) : Bool :=
  k.code = .char 'q' || (k.code = .char 'c' && k.modifiers.control)

/-- The request that an action asks for; `focus` is the selected button. -/
def Action.pressed? (focus : Button) : Action → Option RequestKind
  | .press => some focus.kind
  | .install => some .activate
  | .uninstall => some .deactivate
  | _ => Option.none

/-- A key presses what its action presses. -/
theorem Key.pressed?_eq (k : Key) (focus : Button) :
    k.pressed? focus = k.action.pressed? focus := by
  unfold Key.pressed? Key.action
  split
  · rename_i h; simp [h, Action.pressed?]
  · rename_i h; simp [h, Action.pressed?]
  · rename_i h; simp [h, Action.pressed?]
  · rename_i h; simp [h, Action.pressed?]
  · split <;> simp_all [Action.pressed?]
    -- `c` quits or clears the log, depending on control
    cases k.modifiers.control <;> rfl

/-- A key quits exactly if its action does. -/
theorem Key.isQuit_iff (k : Key) : k.isQuit = true ↔ k.action = .quit := by
  unfold Key.isQuit Key.action
  split <;> simp_all

/-! ### The panel -/

namespace Panel

/-- The requests that a signal asks for: at most one, and none while the help dialog is open. -/
def pressed (p : Panel) : Signal → List RequestKind
  | .key k => if p.help then [] else (k.pressed? p.selected).toList
  | .resize _ _ | .tick => []

/-- An action marks the request that it asks for as pending, unless the help dialog is open. -/
theorem act_pending (p : Panel) (a : Action) :
    (p.act a).pending = if p.help then p.pending else (a.pressed? p.selected).or p.pending := by
  cases a <;> cases h : p.help <;> simp [act, Action.pressed?, h, press] <;> rfl

/-- Where nothing was pending, a key leaves pending what it presses. -/
theorem act_pending_of_none (p : Panel) (k : Key) (h : p.pending = none) :
    (p.act k.action).pending.toList = p.pressed (.key k) := by
  rw [act_pending, h, Option.or_none, ← Key.pressed?_eq, pressed]
  cases p.help <;> rfl

/-- A quitting key stops the console and presses nothing, unless the help dialog is open. -/
theorem act_of_isQuit (p : Panel) (k : Key) (hk : k.isQuit = true) (hp : p.help = false) :
    p.act k.action = { p with quit := true } := by
  rw [(Key.isQuit_iff k).mp hk, act, if_neg (by simp [hp])]

/-- An action that quits presses nothing. -/
theorem act_pending_of_quit (p : Panel) (a : Action) (hp : p.quit = false)
    (h : (p.act a).quit = true) : (p.act a).pending = p.pending := by
  cases a <;> cases hhelp : p.help <;> simp_all [act, press]

@[simp] theorem push_pending (p : Panel) (o : Outcome) : (p.push o).pending = p.pending := rfl

@[simp] theorem push_quit (p : Panel) (o : Outcome) : (p.push o).quit = p.quit := rfl

end Panel

namespace Console

/-! ### Observations of a run -/

/-- The console after a step. -/
def next (c : Console) (a : Nat × ConsoleStep) : Console := (c.step a.1 a.2).1

/-- What the console does in a step. -/
def effects (c : Console) (a : Nat × ConsoleStep) : List Effect := (c.step a.1 a.2).2

/-- The signals that arrive in a step. -/
def arrivedBy (c : Console) (a : Nat × ConsoleStep) : List Signal :=
  if c.stopped then []
  else
    match a.2 with
    | .signal s => [s]
    | _ => []

/-- The signals that arrive in a run, in order. -/
def arrived (c : Console) (steps : List (Nat × ConsoleStep)) : List Signal :=
  Trace.collect next arrivedBy c steps

/-- The requests that a step is asked for, by the key that it acts on. -/
def pressedBy (c : Console) (a : Nat × ConsoleStep) : List RequestKind :=
  ((c.effects a).filterMap Effect.signal?).flatMap c.panel.pressed

/-- The kinds that the keys of a run ask for, in order. -/
def pressed (c : Console) (steps : List (Nat × ConsoleStep)) : List RequestKind :=
  Trace.collect next pressedBy c steps

/-- The events that a step puts into the stream: that of a callback, or those that the manager makes
    at once when a request is submitted to it. -/
def sentBy (c : Console) (a : Nat × ConsoleStep) : List Event :=
  if c.stopped then []
  else
    match a.2 with
    | .callback n callback => c.manager.submitted[n]?.toList.map (·.event callback)
    | .turn _ => c.panel.pending.toList.flatMap fun kind =>
        c.manager.made ⟨c.controller.request kind, c.controller.policy⟩
    | _ => []

/-- The events that callbacks put into the stream of a run, in order. -/
def sent (c : Console) (steps : List (Nat × ConsoleStep)) : List Event :=
  Trace.collect next sentBy c steps

/-- A run joins the effects of its steps. -/
theorem run_eq (c : Console) (steps : List (Nat × ConsoleStep)) :
    c.run steps = (steps.foldl next c, Trace.collect next effects c steps) := by
  induction steps generalizing c with
  | nil => rfl
  | cons a rest ih =>
    simp only [run, ih]
    rfl

/-! ### One step -/

/-- Nothing happens to a console that has stopped. -/
theorem step_stopped (c : Console) (h : c.stopped = true) (time : Nat) (s : ConsoleStep) :
    c.step time s = (c, []) := by
  simp [step, h]

/-- A console that does something is running. -/
theorem running_of_mem (c : Console) (time : Nat) (s : ConsoleStep) (x : Effect)
    (h : x ∈ (c.step time s).2) : c.stopped = false := by
  cases hrun : c.stopped with
  | false => rfl
  | true => simp [c.step_stopped hrun] at h

@[simp] theorem panel_checkQuit (c : Console) : c.checkQuit.panel = c.panel := by
  unfold checkQuit; split <;> rfl

@[simp] theorem channel_checkQuit (c : Console) : c.checkQuit.channel = c.channel := by
  unfold checkQuit; split <;> rfl

@[simp] theorem signals_checkQuit (c : Console) : c.checkQuit.signals = c.signals := by
  unfold checkQuit; split <;> rfl

@[simp] theorem stopped_checkQuit (c : Console) :
    c.checkQuit.stopped = (c.stopped || c.panel.quit) := by
  unfold checkQuit; split <;> simp_all

@[simp] theorem channel_act (s : Signal) (c : Console) : (act s c).channel = c.channel := by
  cases s <;> rfl

@[simp] theorem signals_act (s : Signal) (c : Console) : (act s c).signals = c.signals := by
  cases s <;> rfl

/-- A signal leaves pending what it presses. -/
theorem pending_act (s : Signal) (c : Console) (h : c.panel.pending = none) :
    (act s c).panel.pending.toList = c.panel.pressed s := by
  cases s with
  | key k => exact c.panel.act_pending_of_none k h
  | resize width height => simp [act, h, Panel.pressed]
  | tick => simp [act, h, Panel.pressed]

/-- What a step of a running console can be.  The last case is that of the steps that neither
    submit anything nor take anything from a queue: they leave the panel alone. -/
inductive Move (c : Console) (time : Nat) : ConsoleStep → Console → List Effect → Prop
  | submit (kind : RequestKind) (pick : Pick) (c' : Console) (records : List Record)
      (hpending : c.panel.pending = some kind)
      (hpanel : c'.panel = { c.panel with pending := none }.recordSubmission time kind
        (c.controller.submit kind c.manager c.channel).1)
      (hchannel : c'.channel
        = { c.channel with queue := c.channel.queue ++ c.sentBy (time, .turn pick) })
      (hsignals : c'.signals = c.signals)
      (hstopped : c'.stopped = false) :
      Move c time (.turn pick) c'
        [.submission kind (c.controller.submit kind c.manager c.channel).1 records]
  | act (s : Signal) (rest : List Signal) (hpending : c.panel.pending = none)
      (hsignals : c.signals = s :: rest) :
      Move c time (.turn .terminal) (act s { c with signals := rest }).checkQuit [.signal s]
  | show (e : Event) (rest : List Event) (hpending : c.panel.pending = none)
      (hqueue : c.channel.queue = e :: rest) :
      Move c time (.turn .stream)
        { c with
          panel := c.panel.recordEvent time e
          channel := { c.channel with queue := rest } }.checkQuit
        [.arrival e]
  | quiet (s : ConsoleStep) (c' : Console) (effects : List Effect)
      (hpanel : c'.panel = c.panel)
      (hsignals : c'.signals = c.signals ++ c.arrivedBy (time, s))
      (hchannel : c'.channel
        = { c.channel with queue := c.channel.queue ++ c.sentBy (time, s) })
      (hturn : ∀ pick, s = .turn pick → c.panel.pending = none)
      (hstopped : c'.stopped = true →
        (∃ pick, s = .turn pick) ∨ ∃ cause, s = .drawFailure cause)
      (heffects : ∀ x ∈ effects, x.submittedKind? = none ∧ x.signal? = none ∧ x.event? = none) :
      Move c time s c' effects

/-- A step that sends nothing and does nothing is a quiet one. -/
theorem Move.idle {c c' : Console} {time : Nat} {s : ConsoleStep}
    (hpanel : c'.panel = c.panel) (hsignals : c'.signals = c.signals ++ c.arrivedBy (time, s))
    (hchannel : c'.channel = c.channel) (hsent : c.sentBy (time, s) = [])
    (hturn : ∀ pick, s = .turn pick → c.panel.pending = none)
    (hstopped : c'.stopped = true → (∃ pick, s = .turn pick) ∨ ∃ cause, s = .drawFailure cause)
    (effects : List Effect)
    (heffects : ∀ x ∈ effects, x.submittedKind? = none ∧ x.signal? = none ∧ x.event? = none) :
    Move c time s c' effects := by
  refine .quiet s c' effects hpanel hsignals ?_ hturn hstopped heffects
  rw [hchannel, hsent, List.append_nil]

/-- Every step of a running console is one of these moves. -/
theorem step_move (c : Console) (hrun : c.stopped = false) (hopen : c.channel.isOpen = true)
    (time : Nat) (s : ConsoleStep) : Move c time s (c.step time s).1 (c.step time s).2 := by
  unfold step
  rw [if_neg (Bool.eq_false_iff.mp hrun)]
  have hnone : ∀ x ∈ ([] : List Effect),
      x.submittedKind? = none ∧ x.signal? = none ∧ x.event? = none := by simp
  cases s with
  | signal s =>
    have hsent : c.sentBy (time, .signal s) = [] := by simp [sentBy]
    have harrived : c.arrivedBy (time, .signal s) = [s] := by simp [arrivedBy, hrun]
    refine Move.idle ?_ ?_ ?_ hsent ?_ ?_ _ hnone <;> simp [hrun, harrived]
  | hangUp =>
    have hsent : c.sentBy (time, .hangUp) = [] := by simp [sentBy]
    have harrived : c.arrivedBy (time, .hangUp) = [] := by simp [arrivedBy]
    refine Move.idle ?_ ?_ ?_ hsent ?_ ?_ _ hnone <;> simp [hrun, harrived]
  | manager m =>
    have hsent : c.sentBy (time, .manager m) = [] := by simp [sentBy]
    have harrived : c.arrivedBy (time, .manager m) = [] := by simp [arrivedBy]
    refine Move.idle ?_ ?_ ?_ hsent ?_ ?_ _ hnone <;> simp [hrun, harrived]
  | drawFailure cause =>
    have hsent : c.sentBy (time, .drawFailure cause) = [] := by simp [sentBy]
    have harrived : c.arrivedBy (time, .drawFailure cause) = [] := by simp [arrivedBy]
    refine Move.idle ?_ ?_ ?_ hsent ?_ ?_ _ ?_ <;>
      simp [harrived, Effect.submittedKind?, Effect.signal?, Effect.event?]
  | callback n callback =>
    have harrived : c.arrivedBy (time, .callback n callback) = [] := by simp [arrivedBy]
    simp only [Console.callback]
    cases hd : c.manager.submitted[n]? with
    | none =>
      have hsent : c.sentBy (time, .callback n callback) = [] := by simp [sentBy, hd]
      refine Move.idle ?_ ?_ ?_ hsent ?_ ?_ _ hnone <;> simp [hrun, harrived]
    | some d =>
      have hsent : c.sentBy (time, .callback n callback) = [d.event callback] := by
        simp [sentBy, hrun, hd]
      refine .quiet _ _ _ rfl ?_ ?_ (by simp) (by simp [hrun])
        (by simp [Effect.submittedKind?, Effect.signal?, Effect.event?])
      · simp [harrived]
      · rw [hsent]
        simp [d.call_of_isOpen callback c.channel hopen]
  | turn pick =>
    have harrived : c.arrivedBy (time, .turn pick) = [] := by simp [arrivedBy]
    cases hp : c.panel.pending with
    | some kind =>
      have hsent : c.sentBy (time, .turn pick)
          = c.manager.made ⟨c.controller.request kind, c.controller.policy⟩ := by
        simp [sentBy, hrun, hp]
      simp only [turn, Panel.takePending, hp]
      refine .submit kind pick _ _ hp rfl ?_ rfl hrun
      rw [hsent]
      exact c.manager.submit_channel _ c.channel hopen
    | none =>
      have hsent : c.sentBy (time, .turn pick) = [] := by simp [sentBy, hp]
      -- where there is nothing to take, the turn at most stops the console
      have hidle (c' : Console) (effects : List Effect) (hpanel : c'.panel = c.panel)
          (hsignals : c'.signals = c.signals) (hchannel : c'.channel = c.channel)
          (heffects : ∀ x ∈ effects,
            x.submittedKind? = none ∧ x.signal? = none ∧ x.event? = none) :
          Move c time (.turn pick) c' effects := by
        refine Move.idle hpanel ?_ hchannel hsent (fun _ _ => hp) (fun _ => .inl ⟨_, rfl⟩) _
          heffects
        rw [harrived, hsignals, List.append_nil]
      simp only [turn, Panel.takePending, hp]
      cases pick with
      | terminal =>
        simp only [take, takeSignal]
        cases hs : c.signals with
        | cons s rest => exact .act s rest hp hs
        | nil => cases ha : c.attached <;> exact hidle _ _ (by simp) (by simp [hs]) (by simp) hnone
      | stream =>
        simp only [take, receive]
        cases hq : c.channel.queue with
        | cons e rest => exact .show e rest hp hq
        | nil =>
          cases hsinks : c.hasSinks with
          | true => exact hidle _ _ (by simp) (by simp) (by simp) hnone
          | false =>
            exact hidle _ _ (by simp) (by simp) (by simp)
              (by simp [Effect.submittedKind?, Effect.signal?, Effect.event?])

/-! ### Both queues are in balance -/

section Balance

variable {c c' : Console} {time : Nat} {s : ConsoleStep} {effects : List Effect}

/-- A turn with nothing to submit puts nothing into the stream. -/
theorem sentBy_turn_of_none (c : Console) (hp : c.panel.pending = none) (time : Nat)
    (pick : Pick) : c.sentBy (time, .turn pick) = [] := by
  simp [sentBy, hp]

/-- What a quiet step does is neither a submission nor a signal nor an event. -/
theorem filterMap_of_quiet {β : Type} (f : Effect → Option β) (effects : List Effect)
    (h : ∀ x ∈ effects, f x = none) : effects.filterMap f = [] :=
  List.filterMap_eq_nil_iff.mpr h

/-- The stream of a console is never closed. -/
theorem Move.isOpen (m : Move c time s c' effects) (h : c.channel.isOpen = true) :
    c'.channel.isOpen = true := by
  cases m with
  | submit kind pick c' records hpending hpanel hchannel hsignals hstopped =>
    rw [hchannel]
    exact h
  | act s rest hpending hsignals =>
    rw [channel_checkQuit, channel_act]
    exact h
  | «show» e rest hpending hqueue =>
    rw [channel_checkQuit]
    exact h
  | quiet s c' effects hpanel hsignals hchannel hturn hstopped heffects =>
    rw [hchannel]
    exact h

/-- **The slot.**  A step submits what was pending, and leaves pending what it presses. -/
theorem Move.pending_balance (m : Move c time s c' effects) :
    effects.filterMap Effect.submittedKind? ++ c'.panel.pending.toList
      = c.panel.pending.toList
        ++ (effects.filterMap Effect.signal?).flatMap c.panel.pressed := by
  cases m with
  | submit kind pick c' records hpending hpanel hchannel hsignals hstopped =>
    simp [hpanel, hpending, Panel.recordSubmission, Effect.submittedKind?, Effect.signal?]
  | act s rest hpending hsignals =>
    have hslot := pending_act s { c with signals := rest } hpending
    simp [hpending, hslot, Effect.submittedKind?, Effect.signal?]
  | «show» e rest hpending hqueue =>
    have hkinds : [Effect.arrival e].filterMap Effect.submittedKind? = [] := rfl
    have hsignals : [Effect.arrival e].filterMap Effect.signal? = [] := rfl
    simp [hkinds, hsignals, hpending, Panel.recordEvent]
  | quiet s c' effects hpanel hsignals hchannel hturn hstopped heffects =>
    have hsubmitted := filterMap_of_quiet Effect.submittedKind? effects
      (fun x hx => (heffects x hx).1)
    have hacted := filterMap_of_quiet Effect.signal? effects (fun x hx => (heffects x hx).2.1)
    simp [hpanel, hsubmitted, hacted]

/-- **The terminal.**  A step takes from the front the signal that it acts on, and puts at the end
    what arrives. -/
theorem Move.signal_balance (m : Move c time s c' effects) :
    effects.filterMap Effect.signal? ++ c'.signals = c.signals ++ c.arrivedBy (time, s) := by
  cases m with
  | submit kind pick c' records hpending hpanel hchannel hsignals hstopped =>
    simp [hsignals, arrivedBy, Effect.signal?]
  | act s rest hpending hsignals => simp [hsignals, arrivedBy, Effect.signal?]
  | «show» e rest hpending hqueue =>
    have hnone : [Effect.arrival e].filterMap Effect.signal? = [] := rfl
    simp [hnone, arrivedBy]
  | quiet s c' effects hpanel hsignals hchannel hturn hstopped heffects =>
    have hacted := filterMap_of_quiet Effect.signal? effects (fun x hx => (heffects x hx).2.1)
    rw [hacted, hsignals, List.nil_append]

/-- **The stream.**  A step takes from the front what it shows, and puts at the end what it
    sends. -/
theorem Move.stream_balance (m : Move c time s c' effects) :
    effects.filterMap Effect.event? ++ c'.channel.queue
      = c.channel.queue ++ c.sentBy (time, s) := by
  cases m with
  | submit kind pick c' records hpending hpanel hchannel hsignals hstopped =>
    simp [hchannel, Effect.event?]
  | act s rest hpending hsignals =>
    simp [c.sentBy_turn_of_none hpending, Effect.event?]
  | «show» e rest hpending hqueue =>
    simp [c.sentBy_turn_of_none hpending, hqueue, Effect.event?]
  | quiet s c' effects hpanel hsignals hchannel hturn hstopped heffects =>
    have hshown := filterMap_of_quiet Effect.event? effects (fun x hx => (heffects x hx).2.2)
    simp [hchannel, hshown]

end Balance

/-- The step of a console to whose stream somebody listens keeps somebody listening. -/
theorem isOpen_next (c : Console) (a : Nat × ConsoleStep) (h : c.channel.isOpen = true) :
    (c.next a).channel.isOpen = true := by
  cases hrun : c.stopped with
  | true => rwa [next, c.step_stopped hrun]
  | false => exact (c.step_move hrun h a.1 a.2).isOpen h

/-- **The slot along a run.**  What a run submits and what is pending after it are what was pending
    before it and what its keys pressed. -/
theorem submitted_append_pending (c : Console) (h : c.channel.isOpen = true)
    (steps : List (Nat × ConsoleStep)) :
    (c.run steps).2.filterMap Effect.submittedKind? ++ (c.run steps).1.panel.pending.toList
      = c.panel.pending.toList ++ c.pressed steps := by
  simp only [run_eq, Trace.filterMap_collect]
  refine Trace.collect_conserves next (·.panel.pending.toList) _ pressedBy
    (·.channel.isOpen = true) isOpen_next ?_ c h steps
  intro c a hopen
  cases hrun : c.stopped with
  | true => simp [effects, next, pressedBy, c.step_stopped hrun]
  | false => exact (c.step_move hrun hopen a.1 a.2).pending_balance

/-- **The terminal along a run.**  What a run acts on and what waits after it are what waited before
    it and what arrived. -/
theorem acted_append_signals (c : Console) (h : c.channel.isOpen = true)
    (steps : List (Nat × ConsoleStep)) :
    (c.run steps).2.filterMap Effect.signal? ++ (c.run steps).1.signals
      = c.signals ++ c.arrived steps := by
  simp only [run_eq, Trace.filterMap_collect]
  refine Trace.collect_conserves next (·.signals) _ arrivedBy
    (·.channel.isOpen = true) isOpen_next ?_ c h steps
  intro c a hopen
  cases hrun : c.stopped with
  | true => simp [effects, next, arrivedBy, hrun, c.step_stopped hrun]
  | false => exact (c.step_move hrun hopen a.1 a.2).signal_balance

/-- **The stream along a run.**  What a run shows and what is queued after it are what was queued
    before it and what callbacks sent. -/
theorem shown_append_queue (c : Console) (h : c.channel.isOpen = true)
    (steps : List (Nat × ConsoleStep)) :
    (c.run steps).2.filterMap Effect.event? ++ (c.run steps).1.channel.queue
      = c.channel.queue ++ c.sent steps := by
  simp only [run_eq, Trace.filterMap_collect]
  refine Trace.collect_conserves next (·.channel.queue) _ sentBy
    (·.channel.isOpen = true) isOpen_next ?_ c h steps
  intro c a hopen
  cases hrun : c.stopped with
  | true => simp [effects, next, sentBy, hrun, c.step_stopped hrun]
  | false => exact (c.step_move hrun hopen a.1 a.2).stream_balance

/-! ### What every step keeps -/

/-- What holds of a console from its start on: somebody listens to the stream; as long as it runs
    the user has not quit; and it does not stop while a request is pending. -/
structure Orderly (c : Console) : Prop where
  isOpen : c.channel.isOpen = true
  quit_eq : c.stopped = false → c.panel.quit = false
  pending_eq : c.stopped = true → c.panel.pending = none

/-- A console at its start is orderly. -/
theorem orderly_new (identifier : Identifier) (policy : ReplacementPolicy) (manager : Manager) :
    Orderly (new identifier policy manager) where
  isOpen := rfl
  quit_eq := fun _ => rfl
  pending_eq := fun _ => rfl

section Moves

variable {c c' : Console} {time : Nat} {s : ConsoleStep} {effects : List Effect}

/-- As long as the console runs the user has not quit. -/
theorem Move.quit_eq (m : Move c time s c' effects) (hquit : c.panel.quit = false)
    (hrun' : c'.stopped = false) : c'.panel.quit = false := by
  cases m with
  | submit kind pick c' records hpending hpanel hchannel hsignals hstopped =>
    simpa [hpanel, Panel.recordSubmission] using hquit
  | act s rest hpending hsignals =>
    rw [stopped_checkQuit, Bool.or_eq_false_iff] at hrun'
    rw [panel_checkQuit]
    exact hrun'.2
  | «show» e rest hpending hqueue =>
    rw [panel_checkQuit]
    exact hquit
  | quiet s c' effects hpanel hsignals hchannel hturn hstopped heffects => rwa [hpanel]

/-- Where the screen can be drawn, a console does not stop while a request is pending. -/
theorem Move.pending_eq (m : Move c time s c' effects) (hrun : c.stopped = false)
    (hquit : c.panel.quit = false) (hdraw : ∀ cause, s ≠ .drawFailure cause)
    (hstopped' : c'.stopped = true) : c'.panel.pending = none := by
  cases m with
  | submit kind pick c' records hpending hpanel hchannel hsignals hstopped =>
    rw [hstopped] at hstopped'
    cases hstopped'
  | act s rest hpending hsignals =>
    rw [panel_checkQuit]
    cases s with
    | key k =>
      -- the key that stops the console presses nothing itself
      have hquit' : (c.panel.act k.action).quit = true := by
        simpa [Console.act, hrun] using hstopped'
      exact (c.panel.act_pending_of_quit k.action hquit hquit').trans hpending
    | resize width height => exact hpending
    | tick => exact hpending
  | «show» e rest hpending hqueue =>
    rw [panel_checkQuit]
    exact hpending
  | quiet s c' effects hpanel hsignals hchannel hturn hstopped heffects =>
    rw [hpanel]
    obtain ⟨pick, hpick⟩ | ⟨cause, hcause⟩ := hstopped hstopped'
    · exact hturn pick hpick
    · exact absurd hcause (hdraw cause)

/-- Between turns nothing is acted on, and the panel stays as it is. -/
theorem Move.of_ne_turn (m : Move c time s c' effects) (h : ∀ pick, s ≠ .turn pick) :
    c'.panel = c.panel ∧
      ∀ x ∈ effects, x.submittedKind? = none ∧ x.signal? = none ∧ x.event? = none := by
  cases m with
  | submit kind pick c' records hpending hpanel hchannel hsignals hstopped =>
    exact absurd rfl (h pick)
  | act s rest hpending hsignals => exact absurd rfl (h .terminal)
  | «show» e rest hpending hqueue => exact absurd rfl (h .stream)
  | quiet s c' effects hpanel hsignals hchannel hturn hstopped heffects => exact ⟨hpanel, heffects⟩

/-- A step that submits a request is a turn with that request pending, adds the row of the result,
    and does nothing else. -/
theorem Move.of_submission (m : Move c time s c' effects) {kind : RequestKind}
    {result : Except Fault Request} {records : List Record}
    (h : .submission kind result records ∈ effects) :
    (∃ pick, s = .turn pick) ∧ c.panel.pending = some kind ∧
      result = (c.controller.submit kind c.manager c.channel).1 ∧
      effects = [.submission kind result records] ∧
      c'.panel
        = { c.panel with pending := none }.push (Panel.submissionOutcome time kind result) := by
  cases m with
  | submit kind' pick c' records' hpending hpanel hchannel hsignals hstopped =>
    obtain ⟨rfl, rfl, rfl⟩ : kind = kind' ∧
        result = (c.controller.submit kind' c.manager c.channel).1 ∧ records = records' := by
      simpa using h
    exact ⟨⟨pick, rfl⟩, hpending, rfl, rfl, hpanel⟩
  | act s rest hpending hsignals => simp at h
  | «show» e rest hpending hqueue => simp at h
  | quiet s c' effects hpanel hsignals hchannel hturn hstopped heffects =>
    have hnone := (heffects _ h).1
    simp [Effect.submittedKind?] at hnone

/-- A step that shows an event takes it from the front of the stream, adds its row, and does nothing
    else. -/
theorem Move.of_arrival (m : Move c time s c' effects) (e : Event) (h : .arrival e ∈ effects) :
    effects = [.arrival e] ∧ c'.panel = c.panel.push (Panel.eventOutcome time e) ∧
      c.channel.queue = e :: c'.channel.queue := by
  cases m with
  | submit kind pick c' records hpending hpanel hchannel hsignals hstopped => simp at h
  | act s rest hpending hsignals => simp at h
  | «show» e' rest hpending hqueue =>
    obtain rfl : e = e' := by simpa using h
    refine ⟨rfl, ?_, ?_⟩
    · rw [panel_checkQuit]
      rfl
    · rw [channel_checkQuit]
      exact hqueue
  | quiet s c' effects hpanel hsignals hchannel hturn hstopped heffects =>
    have hnone := (heffects _ h).2.2
    simp [Effect.event?] at hnone

/-- A step that acts on a quitting key stops the console, unless the help dialog is open. -/
theorem Move.of_quit (m : Move c time s c' effects) (k : Key) (hk : k.isQuit = true)
    (hhelp : c.panel.help = false) (h : .signal (.key k) ∈ effects) : c'.stopped = true := by
  cases m with
  | submit kind pick c' records hpending hpanel hchannel hsignals hstopped => simp at h
  | act s rest hpending hsignals =>
    obtain rfl : Signal.key k = s := by simpa using h
    have hquit := c.panel.act_of_isQuit k hk hhelp
    simp [Console.act, hquit]
  | «show» e rest hpending hqueue => simp at h
  | quiet s c' effects hpanel hsignals hchannel hturn hstopped heffects =>
    have hnone := (heffects _ h).2.1
    simp [Effect.signal?] at hnone

end Moves

/-- A step keeps a console orderly if the screen can be drawn. -/
theorem Orderly.next {c : Console} (h : Orderly c) (a : Nat × ConsoleStep)
    (hdraw : ∀ cause, a.2 ≠ .drawFailure cause) : Orderly (c.next a) := by
  cases hrun : c.stopped with
  | true => rwa [Console.next, c.step_stopped hrun]
  | false =>
    have hquit := h.quit_eq hrun
    have m := c.step_move hrun h.isOpen a.1 a.2
    exact ⟨m.isOpen h.isOpen, m.quit_eq hquit, m.pending_eq hrun hquit hdraw⟩

/-- A run keeps a console orderly if the screen can be drawn throughout. -/
theorem Orderly.run {c : Console} (h : Orderly c) (steps : List (Nat × ConsoleStep))
    (hdraw : ∀ time cause, (time, .drawFailure cause) ∉ steps) : Orderly (c.run steps).1 := by
  induction steps generalizing c with
  | nil => exact h
  | cons a rest ih =>
    have hfirst : ∀ cause, a.2 ≠ .drawFailure cause := by
      intro cause hcause
      exact hdraw a.1 cause (by rw [← hcause]; exact List.mem_cons_self)
    refine ih (h.next a hfirst) ?_
    intro time cause hmem
    exact hdraw time cause (List.mem_cons_of_mem a hmem)

/-- A run keeps somebody listening to the stream. -/
theorem isOpen_run (c : Console) (h : c.channel.isOpen = true)
    (steps : List (Nat × ConsoleStep)) : (c.run steps).1.channel.isOpen = true := by
  rw [run_eq]
  induction steps generalizing c with
  | nil => exact h
  | cons a rest ih => exact ih (c.next a) (c.isOpen_next a h)

/-- Nothing happens to a console that has stopped, however long it runs. -/
theorem run_stopped (c : Console) (h : c.stopped = true) (steps : List (Nat × ConsoleStep)) :
    c.run steps = (c, []) := by
  induction steps with
  | nil => rfl
  | cons a rest ih => simp [run, c.step_stopped h, ih]

/-! ### Turns -/

/-- **A pending request goes first.**  Whatever queue a turn would take from, it submits the
    request that is pending, adds its row, and does nothing else. -/
theorem turn_pending (c : Console) (hrun : c.stopped = false) (time : Nat) (pick : Pick)
    (kind : RequestKind) (hp : c.panel.pending = some kind) :
    c.step time (.turn pick)
      = submit time kind { c with panel := { c.panel with pending := none } } := by
  unfold step turn
  rw [if_neg (Bool.eq_false_iff.mp hrun)]
  simp [Panel.takePending, hp]

/-- Where nothing is pending, a turn of the terminal acts on the first signal. -/
theorem turn_terminal (c : Console) (hrun : c.stopped = false) (hp : c.panel.pending = none)
    (time : Nat) {x : Signal} {rest : List Signal} (hs : c.signals = x :: rest) :
    c.step time (.turn .terminal)
      = ((act x { c with signals := rest }).checkQuit, [.signal x]) := by
  unfold step turn
  rw [if_neg (Bool.eq_false_iff.mp hrun)]
  simp [Panel.takePending, hp, take, takeSignal, hs]

/-- Where nothing is pending, a turn of the stream shows the first event. -/
theorem turn_stream (c : Console) (hrun : c.stopped = false) (hp : c.panel.pending = none)
    (time : Nat) {e : Event} {rest : List Event} (hq : c.channel.queue = e :: rest) :
    c.step time (.turn .stream)
      = ({ c with
            panel := c.panel.recordEvent time e
            channel := { c.channel with queue := rest } }.checkQuit, [.arrival e]) := by
  unfold step turn
  rw [if_neg (Bool.eq_false_iff.mp hrun)]
  simp [Panel.takePending, hp, take, receive, hq]

end Console
end DriverExtension
