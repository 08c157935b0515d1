import DriverExtension.Program.Sitting
import DriverExtension.Proofs.Console.Turns

namespace DriverExtension

open Log Terminal

/-!
# A sitting is a run of its console

Whatever is typed at the terminal, whenever its size changes and even when it is gone, the console
takes steps.  So what holds along every run of a console holds along every sitting.

* `Console.run_append` — a run goes on from where it was;
* `Sitting.exists_steps` — a sitting is a run of the console it started with;
* `Console.controller_run` — a console keeps the identifier and the policy of its controller, and
  `Sitting.controller_run` says so of a sitting.
-/

namespace Console

/-- A run goes on from where it was. -/
theorem run_append (c : Console) (first rest : List (Nat × ConsoleStep)) :
    c.run (first ++ rest)
      = (((c.run first).1.run rest).1, (c.run first).2 ++ ((c.run first).1.run rest).2) := by
  induction first generalizing c with
  | nil => rfl
  | cons a first ih => simp only [List.cons_append, run, ih, List.append_assoc]

/-- A single step is a run. -/
theorem run_singleton (c : Console) (time : Nat) (s : ConsoleStep) :
    c.run [(time, s)] = c.step time s := by
  simp [run]

/-! ### The controller along a run -/

@[simp] theorem controller_checkQuit (c : Console) : c.checkQuit.controller = c.controller := by
  unfold checkQuit; split <;> rfl

@[simp] theorem controller_act (s : Signal) (c : Console) :
    (act s c).controller = c.controller := by
  cases s <;> rfl

/-- Only a submission changes the controller, and it only counts on. -/
theorem controller_step (c : Console) (time : Nat) (s : ConsoleStep) :
    (c.step time s).1.controller = c.controller ∨
      (c.step time s).1.controller = c.controller.advance := by
  unfold step
  split
  · exact .inl rfl
  cases s with
  | signal s => exact .inl rfl
  | hangUp => exact .inl rfl
  | manager m => exact .inl rfl
  | drawFailure cause => exact .inl rfl
  | callback n callback =>
    simp only [Console.callback]
    cases c.manager.submitted[n]? <;> exact .inl rfl
  | turn pick =>
    cases hp : c.panel.pending with
    | some kind =>
      simp only [turn, Panel.takePending, hp]
      exact .inr rfl
    | none =>
      left
      simp only [turn, Panel.takePending, hp, controller_checkQuit]
      cases pick with
      | terminal =>
        simp only [take, takeSignal]
        cases c.signals with
        | cons s rest => exact controller_act s _
        | nil => cases c.attached <;> rfl
      | stream =>
        simp only [take, receive]
        cases c.channel.queue with
        | cons e rest => rfl
        | nil => cases c.hasSinks <;> rfl

/-- **A console keeps what it manages.**  Along a run the controller has the identifier and the
    policy that it had at the start. -/
theorem controller_run (c : Console) (steps : List (Nat × ConsoleStep)) :
    (c.run steps).1.controller.identifier = c.controller.identifier ∧
      (c.run steps).1.controller.policy = c.controller.policy := by
  induction steps generalizing c with
  | nil => exact ⟨rfl, rfl⟩
  | cons a rest ih =>
    obtain ⟨hidentifier, hpolicy⟩ := ih (c.step a.1 a.2).1
    obtain hfirst | hfirst := c.controller_step a.1 a.2 <;>
    · rw [hfirst] at hidentifier hpolicy
      exact ⟨hidentifier, hpolicy⟩

end Console

namespace Sitting

/-- One thing that happens at the terminal makes the console take steps. -/
theorem exists_steps_step (s : Sitting) (time : Nat) (happening : Happening) :
    ∃ steps, s.console.run steps
      = ((s.step time happening).1.console, (s.step time happening).2) := by
  -- a sitting acts on what is typed, shows what has arrived, and may lose the screen
  rcases hsignals : signals s.buffer happening with ⟨typed, buffer⟩
  rcases hacts : s.console.run (typed.flatMap (Console.attend time)) with ⟨c, acted⟩
  rcases hshows : c.settle time with ⟨c', shown⟩
  obtain ⟨steps, hsteps⟩ : ∃ steps, s.console.run steps = (c', acted ++ shown) := by
    refine ⟨typed.flatMap (Console.attend time)
      ++ List.replicate (c.channel.queue.length + 1) (time, .turn .stream), ?_⟩
    rw [Console.settle] at hshows
    rw [Console.run_append, hacts, hshows]
  cases happening with
  | typed bytes => exact ⟨steps, by simp [hsteps, step, hsignals, hacts, hshows]⟩
  | resized width height => exact ⟨steps, by simp [hsteps, step, hsignals, hacts, hshows]⟩
  | vanished =>
    refine ⟨steps ++ [(time, .drawFailure goneText)], ?_⟩
    rw [Console.run_append, hsteps, Console.run_singleton]
    simp [step, hsignals, hacts, hshows]

/-- What happens at the terminal makes the console take steps. -/
theorem exists_steps_run (s : Sitting) (happenings : List (Nat × Happening)) :
    ∃ steps, s.console.run steps
      = ((s.run happenings).1.console, (s.run happenings).2) := by
  induction happenings generalizing s with
  | nil => exact ⟨[], rfl⟩
  | cons a rest ih =>
    obtain ⟨first, hfirst⟩ := s.exists_steps_step a.1 a.2
    obtain ⟨others, hothers⟩ := ih (s.step a.1 a.2).1
    refine ⟨first ++ others, ?_⟩
    rw [Console.run_append, hfirst, hothers]
    rfl

/-- **A sitting is a run of its console.**  What the console of a sitting is, and what it has done,
    it is and has done after some run. -/
theorem exists_steps (c : Console) (happenings : List (Nat × Happening)) :
    ∃ steps, c.run steps
      = (((start c).1.run happenings).1.console,
          (start c).2 ++ ((start c).1.run happenings).2) := by
  obtain ⟨steps, hsteps⟩ := (start c).1.exists_steps_run happenings
  refine ⟨List.replicate (c.channel.queue.length + 1) (0, .turn .stream) ++ steps, ?_⟩
  rw [Console.run_append]
  exact congrArg (fun run => (run.1, (start c).2 ++ run.2)) hsteps

/-- **A sitting keeps what it manages.** -/
theorem controller_run (c : Console) (happenings : List (Nat × Happening)) :
    let last := ((start c).1.run happenings).1.console
    last.controller.identifier = c.controller.identifier ∧
      last.controller.policy = c.controller.policy := by
  obtain ⟨steps, hsteps⟩ := exists_steps c happenings
  have hrun := c.controller_run steps
  rwa [hsteps] at hrun

end Sitting
end DriverExtension
