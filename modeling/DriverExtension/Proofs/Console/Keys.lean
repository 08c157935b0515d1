import DriverExtension.Proofs.Console.Outcomes
import DriverExtension.Proofs.Console.Turns
import Mathlib.Logic.Function.Iterate

namespace DriverExtension

/-!
# The history of keys

Keys come to a panel in any order, and now and then the pending request is taken.  Everything that
the panel remembers of them can be told from the history alone, by looking back for the last key of
some sort.

* `Key.opensHelp`, `Key.closesHelp`, `Key.movesFocus`, `Key.direct?` — the sorts of keys, beside
  those that press a button and those that quit;
* `KeyStep.helpOpen` — whether the help dialog is open: it hides the buttons from the keys;
* `KeyStep.liveKeys` — the keys that came while it was closed;
* `KeyStep.focus`, `KeyStep.untaken` — the button that has the focus, and the request that is to be
  taken;
* `Panel.Follows` — the invariant: the panel remembers what its history says;
* `Panel.key_history` — the account of all that keys do.
-/

/-! ### Sorts of keys -/

/-- The button that an action presses wherever the focus is. -/
def Action.direct? : Action → Option Button
  | .install => some .install
  | .uninstall => some .uninstall
  | _ => Option.none

namespace Key

/-- Whether a key opens the help dialog. -/
def opensHelp (k : Key) : Bool := k.code = .char '?'

/-- Whether a key closes the help dialog. -/
def closesHelp (k : Key) : Bool := k.code = .escape || k.isQuit

/-- Whether a key moves the focus from one button to the other. -/
def movesFocus (k : Key) : Bool :=
  [.left, .up, .backTab, .char 'h', .right, .down, .tab, .char 'l'].contains k.code

/-- The button that a key presses wherever the focus is. -/
def direct? (k : Key) : Option Button :=
  match k.code with
  | .char 'i' => some .install
  | .char 'u' => some .uninstall
  | _ => Option.none

theorem isQuit_eq (k : Key) : k.isQuit = decide (k.action = .quit) := by
  rw [Bool.eq_iff_iff, isQuit_iff, decide_eq_true_iff]

theorem opensHelp_eq (k : Key) : k.opensHelp = decide (k.action = .showHelp) := by
  unfold opensHelp action
  split <;> simp_all
  split <;> simp

theorem closesHelp_eq (k : Key) :
    k.closesHelp = (decide (k.action = .closeDialog) || decide (k.action = .quit)) := by
  unfold closesHelp
  rw [isQuit_eq]
  unfold action
  split <;> simp_all
  split <;> simp

theorem movesFocus_eq (k : Key) :
    k.movesFocus = (decide (k.action = .previous) || decide (k.action = .next)) := by
  unfold movesFocus action
  split <;> simp_all
  split <;> simp

theorem direct?_eq (k : Key) : k.direct? = k.action.direct? := by
  unfold action
  split <;> simp_all [direct?, Action.direct?]
  cases k.modifiers.control <;> rfl

end Key

/-! ### The history -/

/-- What happens to the panel of a console between rows of its log. -/
inductive KeyStep where
  | key (k : Key)
  /-- The pending request is taken, to be submitted. -/
  | takePending
deriving DecidableEq

namespace KeyStep

/-- The key of a step. -/
def key? : KeyStep → Option Key
  | .key k => some k
  | .takePending => none

/-- The step of the panel. -/
def toPanelStep : KeyStep → PanelStep
  | .key k => .act k.action
  | .takePending => .takePending

/-- Whether the help dialog is open: of the keys that open or close it, the last one opens it. -/
def helpOpen (steps : List KeyStep) : Bool :=
  ((steps.filterMap key?).filter fun k => k.opensHelp || k.closesHelp).getLast?.any Key.opensHelp

/-- The key of a step, if it comes while the help dialog is closed. -/
def liveKey? (before : List KeyStep) (s : KeyStep) : Option Key :=
  if helpOpen before then none else s.key?

/-- The keys that came while the help dialog was closed, in order. -/
def liveKeys (steps : List KeyStep) : List Key :=
  Trace.recount (fun before s => (liveKey? before s).toList) [] steps

/-- The button with the focus: the last one that was pressed directly, and the first button before
    that; since then each key that moves the focus has moved it once. -/
def focus (steps : List KeyStep) : Button :=
  let keys := liveKeys steps
  Button.other^[(keys.rtakeWhile fun k => k.direct?.isNone).countP Key.movesFocus]
    ((keys.filterMap Key.direct?).getLast?.getD .install)

/-- The request that a step asks for: that of the button which it presses, directly or by the
    focus. -/
def asked? (before : List KeyStep) (s : KeyStep) : Option RequestKind :=
  (liveKey? before s).bind (·.pressed? (focus before))

/-- The request that is to be taken: the last one that was asked for since the last was taken. -/
def untaken (steps : List KeyStep) : Option RequestKind :=
  (Trace.recount (fun before s => (asked? before s).toList)
    (steps.rdropWhile (· ≠ .takePending)) (steps.rtakeWhile (· ≠ .takePending))).getLast?

-- the focus moves to the right, `enter` presses the button there, and what comes under the help
-- dialog does not count
example :
    let key (c : KeyCode) : KeyStep := .key ⟨c, .none, .press⟩
    let steps := [key .right, key .enter, key (.char '?'), key (.char 'i'), key (.char 'q')]
    focus steps = .uninstall ∧ untaken steps = some .deactivate ∧
      untaken (steps ++ [.takePending]) = none := by
  decide

/-! ### One more step -/

variable (steps : List KeyStep)

theorem helpOpen_key (k : Key) :
    helpOpen (steps ++ [.key k]) = (k.opensHelp || (!k.closesHelp && helpOpen steps)) := by
  unfold helpOpen
  rw [List.filterMap_append, List.filter_append]
  cases hopens : k.opensHelp <;> cases hcloses : k.closesHelp <;>
    simp [key?, hopens, hcloses]

theorem helpOpen_takePending : helpOpen (steps ++ [.takePending]) = helpOpen steps := by
  have hkeys : (steps ++ [takePending]).filterMap key? = steps.filterMap key? := by
    rw [List.filterMap_append]
    exact List.append_nil _
  rw [helpOpen, hkeys, helpOpen]

theorem liveKeys_concat (s : KeyStep) :
    liveKeys (steps ++ [s]) = liveKeys steps ++ (liveKey? steps s).toList :=
  Trace.recount_concat _ [] steps s

/-- A step that gives no key to the buttons leaves the focus where it is. -/
theorem focus_of_none {s : KeyStep} (h : liveKey? steps s = none) :
    focus (steps ++ [s]) = focus steps := by
  unfold focus
  rw [liveKeys_concat, h, Option.toList_none, List.append_nil]

/-- A key that presses a button directly moves the focus there, one that moves the focus does just
    that, and any other key leaves it where it is. -/
theorem focus_of_some {s : KeyStep} {k : Key} (h : liveKey? steps s = some k) :
    focus (steps ++ [s])
      = k.direct?.getD (if k.movesFocus then (focus steps).other else focus steps) := by
  unfold focus
  rw [liveKeys_concat, h, Option.toList_some]
  dsimp only
  rw [List.filterMap_append, List.rtakeWhile_concat]
  cases hdirect : k.direct? with
  | some b => simp [hdirect]
  | none =>
    rw [Option.isNone_none, if_pos rfl, List.countP_append]
    cases hmoves : k.movesFocus <;>
      simp [hdirect, hmoves, Function.iterate_succ_apply']

/-- After the request was taken there is none. -/
theorem untaken_takePending : untaken (steps ++ [.takePending]) = none := by
  unfold untaken
  rw [List.rdropWhile_concat_neg _ _ _ (by simp), List.rtakeWhile_concat_neg _ _ _ (by simp)]
  rfl

/-- A key asks for a request in place of the one before, or for none. -/
theorem untaken_key (k : Key) :
    untaken (steps ++ [.key k]) = (asked? steps (.key k)).or (untaken steps) := by
  unfold untaken
  rw [List.rdropWhile_concat_pos _ _ _ (by simp), List.rtakeWhile_concat_pos _ _ _ (by simp),
    Trace.recount_concat, List.rdropWhile_append_rtakeWhile, List.getLast?_append]
  cases asked? steps (.key k) <;> rfl

end KeyStep

/-! ### The panel -/

namespace Panel

theorem act_help (p : Panel) (k : Key) :
    (p.act k.action).help = (k.opensHelp || (!k.closesHelp && p.help)) := by
  rw [k.opensHelp_eq, k.closesHelp_eq]
  cases k.action <;> cases h : p.help <;> simp [act, h, press]

theorem act_quit (p : Panel) (k : Key) :
    (p.act k.action).quit = (p.quit || (!p.help && k.isQuit)) := by
  rw [k.isQuit_eq]
  cases k.action <;> cases h : p.help <;> simp [act, h, press]

theorem act_selected (p : Panel) (k : Key) :
    (p.act k.action).selected
      = if p.help then p.selected
        else k.direct?.getD (if k.movesFocus then p.selected.other else p.selected) := by
  rw [k.direct?_eq, k.movesFocus_eq]
  cases k.action <;> cases h : p.help <;> simp [act, h, press, Action.direct?]

/-- What a panel remembers of the keys that came, and of the requests that were taken. -/
structure Follows (p : Panel) (steps : List KeyStep) : Prop where
  help_eq : p.help = KeyStep.helpOpen steps
  selected_eq : p.selected = KeyStep.focus steps
  pending_eq : p.pending = KeyStep.untaken steps
  quit_eq : p.quit = (KeyStep.liveKeys steps).any Key.isQuit

variable {p : Panel} {steps : List KeyStep}

/-- **Step.**  A panel that remembers its history remembers one more step of it. -/
theorem Follows.next (h : p.Follows steps) (s : KeyStep) :
    (p.next s.toPanelStep).Follows (steps ++ [s]) := by
  cases s with
  | takePending =>
    have hlive : KeyStep.liveKey? steps .takePending = none := ite_self none
    refine ⟨?_, ?_, ?_, ?_⟩
    · rw [KeyStep.helpOpen_takePending]
      exact h.help_eq
    · rw [KeyStep.focus_of_none steps hlive]
      exact h.selected_eq
    · rw [KeyStep.untaken_takePending]
      rfl
    · rw [KeyStep.liveKeys_concat, hlive, Option.toList_none, List.append_nil]
      exact h.quit_eq
  | key k =>
    show (p.act k.action).Follows (steps ++ [.key k])
    have hhelp : (p.act k.action).help = KeyStep.helpOpen (steps ++ [.key k]) := by
      rw [act_help, KeyStep.helpOpen_key, h.help_eq]
    cases hopen : p.help with
    | true =>
      -- the dialog hides the buttons from the key
      have hlive : KeyStep.liveKey? steps (.key k) = none := by
        rw [KeyStep.liveKey?, ← h.help_eq, hopen, if_pos rfl]
      refine ⟨hhelp, ?_, ?_, ?_⟩
      · rw [act_selected, hopen, if_pos rfl, KeyStep.focus_of_none steps hlive, h.selected_eq]
      · rw [act_pending, hopen, if_pos rfl, KeyStep.untaken_key, KeyStep.asked?, hlive,
          h.pending_eq]
        rfl
      · rw [act_quit, hopen, KeyStep.liveKeys_concat, hlive, Option.toList_none, List.append_nil,
          h.quit_eq]
        exact Bool.or_false _
    | false =>
      have hlive : KeyStep.liveKey? steps (.key k) = some k := by
        rw [KeyStep.liveKey?, ← h.help_eq, hopen, if_neg Bool.false_ne_true]
        rfl
      refine ⟨hhelp, ?_, ?_, ?_⟩
      · rw [act_selected, hopen, if_neg Bool.false_ne_true, KeyStep.focus_of_some steps hlive,
          h.selected_eq]
      · rw [act_pending, hopen, if_neg Bool.false_ne_true, KeyStep.untaken_key, KeyStep.asked?,
          hlive, h.pending_eq, ← Key.pressed?_eq, h.selected_eq]
        rfl
      · rw [act_quit, hopen, KeyStep.liveKeys_concat, hlive, h.quit_eq, List.any_append]
        simp

/-- **Run.**  After any steps a new panel remembers just these. -/
theorem follows_run (identifier : Identifier) (backend : String) (policy : ReplacementPolicy)
    (steps : List KeyStep) :
    ((new identifier backend policy).run (steps.map KeyStep.toPanelStep)).Follows steps := by
  -- on the steps from the end, since each of them is judged by those before it
  induction steps using List.reverseRecOn with
  | nil => exact ⟨rfl, rfl, rfl, rfl⟩
  | append_singleton steps s ih =>
    rw [List.map_append, List.map_singleton, run_concat]
    exact ih.next s

/-- A panel that has quit does not come back. -/
theorem quit_run (h : p.quit = true) (steps : List KeyStep) :
    (p.run (steps.map KeyStep.toPanelStep)).quit = true := by
  induction steps generalizing p with
  | nil => exact h
  | cons s rest ih =>
    refine ih (p := p.next s.toPanelStep) ?_
    cases s with
    | takePending => exact h
    | key k =>
      show (p.act k.action).quit = true
      rw [act_quit, h, Bool.true_or]

/-- **The history of keys.**  After any keys, and any takings of the pending request, a new panel
    shows the help dialog exactly if the last key that opens or closes it opened it.  A key that
    comes under the dialog changes neither the focus nor the pending request, and does not quit.
    Of the keys that came while the dialog was closed: the request that is taken next is the last
    that they asked for since one was taken, if they did; the panel has quit exactly if one of them
    quits, and never comes back; and the focus is on the button that was last pressed directly, the
    first one if none was, moved once by each key since then that moves it.  Two keys in a row that
    quit do so wherever they come. -/
theorem key_history (identifier : Identifier) (backend : String) (policy : ReplacementPolicy)
    (steps : List KeyStep) :
    let p := (new identifier backend policy).run (steps.map KeyStep.toPanelStep)
    p.help = KeyStep.helpOpen steps ∧
    (p.help = true → ∀ k : Key, (p.act k.action).selected = p.selected ∧
      (p.act k.action).pending = p.pending ∧ (p.act k.action).quit = p.quit) ∧
    p.takePending.1 = KeyStep.untaken steps ∧
    (p.quit = true ↔ ∃ k ∈ KeyStep.liveKeys steps, k.isQuit = true) ∧
    (p.quit = true → ∀ more : List KeyStep, (p.run (more.map KeyStep.toPanelStep)).quit = true) ∧
    p.selected = KeyStep.focus steps ∧
    ∀ k k' : Key, k.isQuit = true → k'.isQuit = true →
      ((p.act k.action).act k'.action).quit = true := by
  intro p
  have h : p.Follows steps := follows_run identifier backend policy steps
  refine ⟨h.help_eq, ?_, h.pending_eq, ?_, quit_run, h.selected_eq, ?_⟩
  · intro hhelp k
    rw [act_selected, act_pending, act_quit, hhelp, if_pos rfl, if_pos rfl]
    exact ⟨rfl, rfl, Bool.or_false _⟩
  · rw [h.quit_eq, List.any_eq_true]
  · intro k k' hk hk'
    -- the first key closes the dialog if it is open, and quits otherwise
    have hcloses : k.closesHelp = true := by
      rw [Key.closesHelp, hk, Bool.or_true]
    have hopens : k.opensHelp = false := by
      rw [Key.opensHelp_eq, (k.isQuit_iff).mp hk]
      rfl
    have hclosed : (p.act k.action).help = false := by
      rw [act_help, hcloses, hopens]
      rfl
    rw [act_quit, hclosed, hk']
    exact Bool.or_true _

end Panel
end DriverExtension
