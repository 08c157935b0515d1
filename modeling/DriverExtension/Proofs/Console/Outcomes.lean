import DriverExtension.Console.Panel
import Mathlib.Data.List.DropRight

namespace DriverExtension

/-!
# The outcome log

Actions, submissions and events come to a panel in any order.  What its outcome log shows can be
told from the steps alone: it is a window on the rows that were pushed since the log was cleared.

* `PanelStep`, `Panel.run` — what happens to a panel;
* `PanelStep.row?` — the row that a step pushes;
* `PanelStep.rows` — the rows that were pushed since the log was last cleared;
* `Panel.outcomes_next` — what one step does to the log;
* `Panel.outcomes_run` — the log after a run is a window on the rows;
* `Panel.outcome_window` — the account of the log.
-/

/-- What happens to a panel; where a row is pushed, with the time that the clock shows. -/
inductive PanelStep where
  | act (a : Action)
  | takePending
  | submission (time : Nat) (kind : RequestKind) (result : Except Fault Request)
  | event (time : Nat) (e : Event)

namespace PanelStep

/-- The row that a step pushes. -/
def row? : PanelStep → Option Outcome
  | .submission time kind result => some (Panel.submissionOutcome time kind result)
  | .event time e => some (Panel.eventOutcome time e)
  | _ => none

/-- What the clock shows at a step that reads it. -/
def time? : PanelStep → Option Nat
  | .submission time _ _ | .event time _ => some time
  | _ => none

/-- Whether a step clears the log. -/
def clears : PanelStep → Bool
  | .act .clearLog => true
  | _ => false

/-- The steps after the log was last cleared, or all of them if it never was. -/
def sinceClear (steps : List PanelStep) : List PanelStep := steps.rtakeWhile fun s => !s.clears

/-- The rows that were pushed since the log was last cleared, oldest first. -/
def rows (steps : List PanelStep) : List Outcome := (sinceClear steps).filterMap row?

/-- A row bears the time that the clock showed. -/
theorem row?_time (s : PanelStep) : s.row?.map Outcome.time = s.time? := by
  cases s with
  | submission time kind result => cases result <;> rfl
  | event time e => rfl
  | act a => rfl
  | takePending => rfl

/-- A step that clears the log leaves no rows; any other one adds the row that it pushes. -/
theorem rows_concat (steps : List PanelStep) (s : PanelStep) :
    rows (steps ++ [s]) = if s.clears then [] else rows steps ++ s.row?.toList := by
  rw [rows, sinceClear, List.rtakeWhile_concat]
  cases s.clears with
  | true => rfl
  | false =>
    show ((sinceClear steps) ++ [s]).filterMap row? = rows steps ++ s.row?.toList
    rw [List.filterMap_append]
    cases hrow : s.row? <;> simp [rows, hrow]

/-- The rows bear times of the clock, in the order in which it showed them. -/
theorem times_rows_sublist (steps : List PanelStep) :
    ((rows steps).map Outcome.time).Sublist (steps.filterMap time?) := by
  have htimes : (rows steps).map Outcome.time = (sinceClear steps).filterMap time? := by
    rw [rows, List.map_filterMap]
    exact List.filterMap_congr fun s _ => s.row?_time
  rw [htimes]
  exact (List.rtakeWhile_suffix _ _).sublist.filterMap _

end PanelStep

namespace Panel

/-- The panel after a step. -/
def next (p : Panel) : PanelStep → Panel
  | .act a => p.act a
  | .takePending => p.takePending.2
  | .submission time kind result => p.recordSubmission time kind result
  | .event time e => p.recordEvent time e

/-- The panel after a list of steps. -/
def run (p : Panel) (steps : List PanelStep) : Panel := steps.foldl next p

/-- A run ends with its last step. -/
theorem run_concat (p : Panel) (steps : List PanelStep) (s : PanelStep) :
    p.run (steps ++ [s]) = (p.run steps).next s := by
  rw [run, List.foldl_append]
  rfl

/-! ### One step -/

/-- No action changes the log but the one that clears it, and this one does so under the help dialog
    too. -/
theorem outcomes_act (p : Panel) (a : Action) :
    (p.act a).outcomes = if a = .clearLog then [] else p.outcomes := by
  cases a <;> cases hhelp : p.help <;> simp [act, press, hhelp]

/-- **Step.**  A step that clears the log leaves nothing of it; one that pushes a row pushes just
    this one; and any other step leaves the log as it is. -/
theorem outcomes_next (p : Panel) (s : PanelStep) :
    (p.next s).outcomes
      = if s.clears then []
        else match s.row? with
          | some o => (p.push o).outcomes
          | none => p.outcomes := by
  cases s with
  | act a =>
    rw [next, outcomes_act]
    cases a <;> rfl
  | takePending => rfl
  | submission time kind result => rfl
  | event time e => rfl

/-! ### The window -/

/-- When a window on some rows is full its oldest row goes before another one is added, and this
    gives the window on the rows with the other one. -/
theorem window_push (n : Nat) (rows : List Outcome) (o : Outcome) :
    (if (rows.rtake (n + 1)).length = n + 1 then (rows.rtake (n + 1)).drop 1
      else rows.rtake (n + 1)) ++ [o] = (rows ++ [o]).rtake (n + 1) := by
  have hlength : (rows.rtake (n + 1)).length = min (n + 1) rows.length := by
    rw [List.rtake, List.length_drop]
    omega
  rw [List.rtake_concat_succ]
  by_cases hfull : (rows.rtake (n + 1)).length = n + 1
  · -- the window moves on by one row
    have hnext : rows.length - (n + 1) + 1 = rows.length - n := by omega
    rw [if_pos hfull, List.rtake, List.rtake, List.drop_drop, hnext]
  · -- there is room, so all rows are in the window, and they stay there
    have hall : rows.length - (n + 1) = rows.length - n := by omega
    rw [if_neg hfull, List.rtake, List.rtake, hall]

/-- Pushing a row onto a log that shows the window on some rows. -/
theorem outcomes_push (p : Panel) (o : Outcome) (rows : List Outcome)
    (h : p.outcomes = rows.rtake maxOutcomes) :
    (p.push o).outcomes = (rows ++ [o]).rtake maxOutcomes := by
  rw [push, h]
  exact window_push 199 rows o

/-- **Run.**  The log of a run of a new panel is the window on the rows that were pushed since it
    was last cleared. -/
theorem outcomes_run (identifier : Identifier) (backend : String) (policy : ReplacementPolicy)
    (steps : List PanelStep) :
    ((new identifier backend policy).run steps).outcomes
      = (PanelStep.rows steps).rtake maxOutcomes := by
  -- on the steps from the end, since the window moves with the last of them
  induction steps using List.reverseRecOn with
  | nil => rfl
  | append_singleton steps s ih =>
    rw [run_concat, outcomes_next, PanelStep.rows_concat]
    cases s.clears with
    | true => exact (List.rtake_nil maxOutcomes).symm
    | false =>
      rw [if_neg Bool.false_ne_true, if_neg Bool.false_ne_true]
      cases s.row? with
      | some o => exact outcomes_push _ o _ ih
      | none => rw [Option.toList_none, List.append_nil, ih]

/-- **The window on the outcomes.**  After any run of a new panel, with `rows` those that were
    pushed since the log was last cleared, the log shows the last two hundred of them, or all if
    there are fewer, oldest first.  Every submission and every event pushes one row, which is then
    the last one shown; clearing leaves none, and nothing else that may happen changes the log,
    whether or not the help dialog is open.  If the clock never goes back, the times of the rows
    never decrease. -/
theorem outcome_window (identifier : Identifier) (backend : String) (policy : ReplacementPolicy)
    (steps : List PanelStep) :
    let p := (new identifier backend policy).run steps
    let rows := PanelStep.rows steps
    p.outcomes = rows.drop (rows.length - 200) ∧
    p.outcomes.length = min 200 rows.length ∧ p.outcomes.length ≤ 200 ∧
    (∀ time kind result,
      (p.recordSubmission time kind result).outcomes
        = (rows ++ [submissionOutcome time kind result]).rtake 200 ∧
      (p.recordSubmission time kind result).outcomes.getLast?
        = some (submissionOutcome time kind result)) ∧
    (∀ time e,
      (p.recordEvent time e).outcomes = (rows ++ [eventOutcome time e]).rtake 200 ∧
      (p.recordEvent time e).outcomes.getLast? = some (eventOutcome time e)) ∧
    (∀ a, (p.act a).outcomes = if a = .clearLog then [] else p.outcomes) ∧
    p.takePending.2.outcomes = p.outcomes ∧
    ((steps.filterMap PanelStep.time?).Pairwise (· ≤ ·) →
      (p.outcomes.map Outcome.time).Pairwise (· ≤ ·)) := by
  intro p rows
  have hwindow : p.outcomes = rows.rtake maxOutcomes := outcomes_run identifier backend policy steps
  have hlength : p.outcomes.length = min 200 rows.length := by
    rw [hwindow, List.rtake, List.length_drop, maxOutcomes]
    omega
  have hlast : ∀ o, (p.push o).outcomes.getLast? = some o := fun o => List.getLast?_concat ..
  refine ⟨hwindow, hlength, ?_, ?_, ?_, outcomes_act p, rfl, ?_⟩
  · omega
  · intro time kind result
    exact ⟨outcomes_push p _ rows hwindow, hlast _⟩
  · intro time e
    exact ⟨outcomes_push p _ rows hwindow, hlast _⟩
  · intro hclock
    have hrows : (rows.map Outcome.time).Pairwise (· ≤ ·) :=
      hclock.sublist (PanelStep.times_rows_sublist steps)
    rw [hwindow]
    exact hrows.sublist ((List.drop_sublist _ _).map _)

end Panel
end DriverExtension
