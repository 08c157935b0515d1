import DriverExtension.Terminal.Pump

namespace DriverExtension.Terminal

/-!
# What the pump forwards, and when it ticks

The pump reads, sends and ticks in one loop.  As long as the terminal can be read and somebody
listens, nothing that the console is to know is lost, doubled or moved, whenever the ticks fall.
Ticks depend on the clock only: a pass that finds one due sends it, whether or not something was read
in the same pass.

* `Signal.event?`, `TerminalEvent.isNews` — signals and the events that they stand for;
* `Pump.run_cons` — one pass of a loop that lasts;
* `Pump.events_run` — what is sent, without the ticks;
* `Pump.since`, `Pump.clock` — the time to the next tick and the clock, told from what was sent;
* `Pump.punctual`, `Pump.ticks_apart` — when a pass ticks, and how far apart ticks are;
* `Pump.run_forwards` — the account of the loop.
-/

/-! ### Signals and events -/

/-- The terminal event that a signal stands for; a tick stands for none. -/
def Signal.event? : Signal → Option TerminalEvent
  | .key k => some (.key k)
  | .resize width height => some (.resize width height)
  | .tick => none

/-- Whether the console is to know of an event: a key that goes down, or a new size. -/
def TerminalEvent.isNews : TerminalEvent → Bool
  | .key k => k.kind = .press
  | .resize _ _ => true
  | .other => false

/-- The event that was read, if one was. -/
def Awaited.event? : Awaited → Option TerminalEvent
  | .event e => some e
  | .nothing | .failure => none

/-- A signal is made of the event that it stands for, and only of one that is news. -/
theorem Signal.ofEvent?_eq_some_iff {e : TerminalEvent} {s : Signal} :
    ofEvent? e = some s ↔ s.event? = some e ∧ e.isNews = true := by
  cases e with
  | key k =>
    by_cases hk : k.kind = .press <;> cases s <;>
      simp [ofEvent?, event?, TerminalEvent.isNews, hk, eq_comm]
  | resize width height => cases s <;> simp [ofEvent?, event?, TerminalEvent.isNews, eq_comm]
  | other => simp [ofEvent?, TerminalEvent.isNews]

namespace Pump

/-- The signals of what was read. -/
def kept (p : Pass) : List Signal := (p.awaited.event?.bind Signal.ofEvent?).toList

/-- They stand for what was read if it is news, and for nothing else. -/
theorem events_kept (p : Pass) :
    (kept p).filterMap Signal.event? = p.awaited.event?.toList.filter TerminalEvent.isNews := by
  rw [kept]
  cases p.awaited.event? with
  | none => rfl
  | some e =>
    rw [Option.bind_some, Option.toList_some]
    cases hs : Signal.ofEvent? e with
    | some s =>
      obtain ⟨hevent, hnews⟩ := Signal.ofEvent?_eq_some_iff.mp hs
      rw [List.filter_cons_of_pos hnews, Option.toList_some, List.filterMap_cons_some hevent]
      rfl
    | none =>
      have hnews : ¬ e.isNews = true := by
        cases e <;> simp_all [Signal.ofEvent?, TerminalEvent.isNews]
      rw [List.filter_cons_of_neg hnews]
      rfl

/-- No tick is among them. -/
theorem tick_notMem_kept (p : Pass) : .tick ∉ kept p := by
  intro hmem
  obtain ⟨e, -, he⟩ := Option.bind_eq_some_iff.mp (Option.mem_toList.mp hmem)
  obtain ⟨hevent, -⟩ := Signal.ofEvent?_eq_some_iff.mp he
  cases hevent

end Pump

/-! ### Loops that last -/

/-- A pass that does not end the loop: what came could be read, and somebody listens. -/
structure Pass.Lasts (p : Pass) : Prop where
  read : p.awaited ≠ .failure
  heard : p.heard = true
  tickHeard : p.tickHeard = true

instance (p : Pass) : Decidable p.Lasts :=
  decidable_of_iff (p.awaited ≠ .failure ∧ p.heard = true ∧ p.tickHeard = true)
    ⟨fun ⟨hread, hheard, htick⟩ => ⟨hread, hheard, htick⟩,
      fun h => ⟨h.read, h.heard, h.tickHeard⟩⟩

namespace Pump

/-- Such a pass sends what it read. -/
theorem forwarded?_of_lasts {p : Pass} (h : p.Lasts) : forwarded? p = some (kept p) := by
  rw [forwarded?, kept]
  cases hp : p.awaited with
  | nothing => rfl
  | event e =>
    simp only [Awaited.event?, Option.bind_some]
    cases Signal.ofEvent? e with
    | some s => exact if_pos h.heard
    | none => rfl
  | failure => exact absurd hp h.read

/-- What a pass sends that does not end the loop: what it read, and then a tick if one is due. -/
def sent (rate last : Nat) (p : Pass) : List Signal :=
  kept p ++ if isDue rate last p then [.tick] else []

/-- Since when the time to the next tick runs after such a pass. -/
def next (rate last : Nat) (p : Pass) : Nat := if isDue rate last p then p.restarted else last

/-- **One pass.**  A pass that does not end the loop sends what it read, and a tick if one is due;
    then the loop goes on. -/
theorem run_cons {p : Pass} (h : p.Lasts) (rate last : Nat) (rest : List Pass) :
    run rate last (p :: rest)
      = ⟨timeout rate last p.begun, sent rate last p⟩ :: run rate (next rate last p) rest := by
  rw [run, pass, forwarded?_of_lasts h, sent, next]
  dsimp only
  by_cases hdue : isDue rate last p = true
  · rw [if_pos hdue, if_pos hdue, if_pos hdue, if_pos h.tickHeard]
  · rw [if_neg hdue, if_neg hdue, if_neg hdue, List.append_nil]

/-- A pass ticks exactly if a tick is due. -/
theorem tick_mem_sent_iff {rate last : Nat} {p : Pass} :
    .tick ∈ sent rate last p ↔ isDue rate last p = true := by
  rw [sent, List.mem_append, or_iff_right (tick_notMem_kept p)]
  by_cases hdue : isDue rate last p = true <;> simp [hdue]

/-- Without its ticks, a pass sends what it read. -/
theorem events_sent (rate last : Nat) (p : Pass) :
    (sent rate last p).filterMap Signal.event?
      = p.awaited.event?.toList.filter TerminalEvent.isNews := by
  rw [sent, List.filterMap_append, events_kept]
  split
  · exact List.append_nil _
  · exact List.append_nil _

/-- As long as it lasts, the loop makes every pass. -/
theorem length_run (rate : Nat) {passes : List Pass} (hlasts : ∀ p ∈ passes, p.Lasts) (last : Nat) :
    (run rate last passes).length = passes.length := by
  induction passes generalizing last with
  | nil => rfl
  | cons p rest ih =>
    obtain ⟨hp, hrest⟩ := List.forall_mem_cons.mp hlasts
    rw [run_cons hp, List.length_cons, ih hrest, List.length_cons]

/-- **Order.**  Without the ticks, the loop sends what is news among all that it read, in order. -/
theorem events_run (rate : Nat) {passes : List Pass} (hlasts : ∀ p ∈ passes, p.Lasts) (last : Nat) :
    ((run rate last passes).flatMap Turn.signals).filterMap Signal.event?
      = (passes.filterMap fun p => p.awaited.event?).filter TerminalEvent.isNews := by
  induction passes generalizing last with
  | nil => rfl
  | cons p rest ih =>
    obtain ⟨hp, hrest⟩ := List.forall_mem_cons.mp hlasts
    rw [run_cons hp, List.flatMap_cons, List.filterMap_append, ih hrest, events_sent,
      List.filterMap_cons, ← List.filter_append]
    cases p.awaited.event? with
    | none => rfl
    | some e => rfl

/-- What comes after some passes does not change what they did. -/
theorem run_prefix (rate last : Nat) (passes more : List Pass) :
    run rate last passes <+: run rate last (passes ++ more) := by
  induction passes generalizing last with
  | nil => exact List.nil_prefix
  | cons p rest ih =>
    simp only [List.cons_append, run]
    refine List.cons_prefix_cons.mpr ⟨rfl, ?_⟩
    cases (pass rate last p).2 with
    | none => exact List.nil_prefix
    | some last => exact ih last

/-! ### Ticks -/

/-- The passes of a run, each with what it does. -/
def history (rate last : Nat) (passes : List Pass) : List (Pass × Turn) :=
  passes.zip (run rate last passes)

/-- Since when the time to the next tick runs after some passes: since the clock after the last
    tick among them; if there was none, as before. -/
def since (last : Nat) : List (Pass × Turn) → Nat
  | [] => last
  | (p, t) :: rest => since (if .tick ∈ t.signals then p.restarted else last) rest

/-- What the clock showed in a pass.  After a tick it is read once more. -/
def readings (d : Pass × Turn) : List Nat :=
  [d.1.begun, d.1.checked] ++ if .tick ∈ d.2.signals then [d.1.restarted] else []

/-- All that the clock showed in a run, from the time on when the loop began. -/
def clock (rate start : Nat) (passes : List Pass) : List Nat :=
  start :: (history rate start passes).flatMap readings

/-- The first pass of a history, and the others. -/
theorem history_cons {p : Pass} (h : p.Lasts) (rate last : Nat) (rest : List Pass) :
    history rate last (p :: rest)
      = (p, ⟨timeout rate last p.begun, sent rate last p⟩)
        :: history rate (next rate last p) rest := by
  rw [history, run_cons h]
  rfl

/-- A tick begins the time to the next one anew. -/
theorem next_eq (rate last : Nat) (p : Pass) :
    (if .tick ∈ sent rate last p then p.restarted else last) = next rate last p := by
  by_cases hdue : isDue rate last p = true
  · rw [if_pos (tick_mem_sent_iff.mpr hdue), next, if_pos hdue]
  · rw [if_neg (mt tick_mem_sent_iff.mp hdue), next, if_neg hdue]

/-- The clock of a run that begins with a tick begins anew behind it. -/
theorem clock_cons_of_due {p : Pass} (h : p.Lasts) {rate last : Nat}
    (hdue : isDue rate last p = true) (rest : List Pass) :
    clock rate last (p :: rest) = last :: p.begun :: p.checked :: clock rate p.restarted rest := by
  have hnext : next rate last p = p.restarted := if_pos hdue
  rw [clock, history_cons h, List.flatMap_cons, readings, if_pos (tick_mem_sent_iff.mpr hdue),
    hnext]
  rfl

/-- Without a tick it goes on. -/
theorem clock_cons_of_not_due {p : Pass} (h : p.Lasts) {rate last : Nat}
    (hdue : ¬ isDue rate last p = true) (rest : List Pass) :
    clock rate last (p :: rest)
      = last :: p.begun :: p.checked :: (history rate last rest).flatMap readings := by
  have hnext : next rate last p = last := if_neg hdue
  rw [clock, history_cons h, List.flatMap_cons, readings, if_neg (mt tick_mem_sent_iff.mp hdue),
    hnext]
  rfl

/-- What a clock that never goes back says about the first pass of a run and about the others. -/
structure Steady (rate last : Nat) (p : Pass) (rest : List Pass) : Prop where
  begun : last ≤ p.begun
  checked : last ≤ p.checked
  next : last ≤ next rate last p
  rest : (clock rate (Pump.next rate last p) rest).Pairwise (· ≤ ·)

theorem steady_of_clock {rate last : Nat} {p : Pass} (h : p.Lasts) {rest : List Pass}
    (hclock : (clock rate last (p :: rest)).Pairwise (· ≤ ·)) : Steady rate last p rest := by
  by_cases hdue : isDue rate last p = true
  · have hnext : next rate last p = p.restarted := if_pos hdue
    rw [clock_cons_of_due h hdue] at hclock
    obtain ⟨hfirst, hothers⟩ := List.pairwise_cons.mp hclock
    refine ⟨hfirst _ (by simp), hfirst _ (by simp), ?_, ?_⟩
    · rw [hnext]
      exact hfirst _ (by simp [clock])
    · rw [hnext]
      exact hothers.of_cons.of_cons
  · have hnext : next rate last p = last := if_neg hdue
    rw [clock_cons_of_not_due h hdue] at hclock
    obtain ⟨hfirst, hothers⟩ := List.pairwise_cons.mp hclock
    refine ⟨hfirst _ (by simp), hfirst _ (by simp), Nat.le_of_eq hnext.symm, ?_⟩
    rw [hnext]
    refine List.pairwise_cons.mpr ⟨?_, hothers.of_cons.of_cons⟩
    intro time htime
    exact hfirst time (List.mem_cons_of_mem _ (List.mem_cons_of_mem _ htime))

/-- A tick is due if the time between two ticks has passed, by a clock that has not gone back. -/
theorem isDue_iff {rate last : Nat} {p : Pass} (h : last ≤ p.checked) :
    isDue rate last p = true ↔ last + rate ≤ p.checked := by
  rw [isDue, decide_eq_true_eq]
  omega

/-- How long a pass waits: until the next tick is due, and not at all if it is overdue. -/
theorem timeout_eq {last begun : Nat} (rate : Nat) (h : last ≤ begun) :
    (timeout rate last begun : Int) = max 0 (last + rate - begun) := by
  rw [timeout]
  omega

/-- No pass sends more than one tick. -/
theorem count_tick_sent (rate last : Nat) (p : Pass) : (sent rate last p).count .tick ≤ 1 := by
  rw [sent, List.count_append, List.count_eq_zero.mpr (tick_notMem_kept p), Nat.zero_add]
  split
  · exact Nat.le_refl 1
  · exact Nat.zero_le 1

/-- **Ticks.**  Each pass of a run ticks if the time between two ticks has passed since the last one,
    after it has sent what it read. -/
theorem punctual {rate last : Nat} {passes : List Pass} (hlasts : ∀ p ∈ passes, p.Lasts)
    (hclock : (clock rate last passes).Pairwise (· ≤ ·)) {before after : List (Pass × Turn)}
    {p : Pass} {t : Turn} (h : history rate last passes = before ++ (p, t) :: after) :
    t.signals = kept p ++ (if since last before + rate ≤ p.checked then [.tick] else []) ∧
    (.tick ∈ t.signals ↔ since last before + rate ≤ p.checked) ∧
    t.signals.count .tick ≤ 1 ∧
    (t.wait : Int) = max 0 (since last before + rate - p.begun) := by
  induction passes generalizing last before with
  | nil => cases before <;> cases h
  | cons q rest ih =>
    obtain ⟨hq, hrest⟩ := List.forall_mem_cons.mp hlasts
    have hsteady := steady_of_clock hq hclock
    rw [history_cons hq] at h
    cases before with
    | nil =>
      obtain ⟨hfirst, -⟩ := List.cons.inj h
      obtain ⟨rfl, rfl⟩ := Prod.mk.inj hfirst
      have hdue : isDue rate last q = true ↔ last + rate ≤ q.checked := isDue_iff hsteady.checked
      refine ⟨?_, tick_mem_sent_iff.trans hdue, count_tick_sent rate last q,
        timeout_eq rate hsteady.begun⟩
      show sent rate last q = kept q ++ if last + rate ≤ q.checked then [.tick] else []
      simp only [sent, hdue]
    | cons first before =>
      obtain ⟨rfl, hlater⟩ := List.cons.inj h
      -- the first pass hands on since when the time to the next tick runs
      have hsince : since last ((q, ⟨timeout rate last q.begun, sent rate last q⟩) :: before)
          = since (next rate last q) before := by
        rw [since, next_eq]
      rw [hsince]
      exact ih hrest hsteady.rest hlater

/-- A tick comes no earlier than the time between two ticks after the loop began. -/
theorem due_of_tick {rate last : Nat} {passes : List Pass} (hlasts : ∀ p ∈ passes, p.Lasts)
    (hclock : (clock rate last passes).Pairwise (· ≤ ·)) :
    ∀ d ∈ history rate last passes, .tick ∈ d.2.signals → last + rate ≤ d.1.checked := by
  induction passes generalizing last with
  | nil => exact List.forall_mem_nil _
  | cons q rest ih =>
    obtain ⟨hq, hrest⟩ := List.forall_mem_cons.mp hlasts
    have hsteady := steady_of_clock hq hclock
    rw [history_cons hq]
    refine List.forall_mem_cons.mpr ⟨?_, ?_⟩
    · intro htick
      exact (isDue_iff hsteady.checked).mp (tick_mem_sent_iff.mp htick)
    · intro d hd htick
      have hdue := ih hrest hsteady.rest d hd htick
      have hnext := hsteady.next
      omega

/-- **Distance.**  Two ticks of a run are at least the time between two ticks apart, even from when
    the clock was read after the first to when it was read before the second. -/
theorem ticks_apart {rate last : Nat} {passes : List Pass} (hlasts : ∀ p ∈ passes, p.Lasts)
    (hclock : (clock rate last passes).Pairwise (· ≤ ·)) :
    (history rate last passes).Pairwise fun d e =>
      .tick ∈ d.2.signals → .tick ∈ e.2.signals → d.1.restarted + rate ≤ e.1.checked := by
  induction passes generalizing last with
  | nil => exact List.Pairwise.nil
  | cons q rest ih =>
    obtain ⟨hq, hrest⟩ := List.forall_mem_cons.mp hlasts
    have hsteady := steady_of_clock hq hclock
    rw [history_cons hq]
    refine List.pairwise_cons.mpr ⟨?_, ih hrest hsteady.rest⟩
    intro e he hfirst hsecond
    have hnext : next rate last q = q.restarted := if_pos (tick_mem_sent_iff.mp hfirst)
    have hdue := due_of_tick hrest hsteady.rest e he hsecond
    rwa [hnext] at hdue

/-! ### The account -/

/-- **Forwarding.**  As long as the terminal can be read and somebody listens, and if the clock never
    goes back, the loop makes every pass.  Without the ticks, what it sends are the keys that went
    down and the new sizes among what it read, each once and in order.

    A pass first sends what it read.  It ticks exactly if it finds that the time between two ticks
    has passed, since the clock was read after the last tick or since the loop began, and then once.
    It waits until the next tick is due, and not at all if this is overdue.  A tick is sent before
    the clock is read again, so two ticks are at least the time between two ticks apart.  What comes
    after these passes, even an end of the loop, changes nothing of this. -/
theorem run_forwards (rate start : Nat) (passes : List Pass) (hlasts : ∀ p ∈ passes, p.Lasts)
    (hclock : (clock rate start passes).Pairwise (· ≤ ·)) :
    (run rate start passes).length = passes.length ∧
    ((run rate start passes).flatMap Turn.signals).filterMap Signal.event?
      = (passes.filterMap fun p => p.awaited.event?).filter TerminalEvent.isNews ∧
    (∀ before p t after, history rate start passes = before ++ (p, t) :: after →
      t.signals = kept p ++ (if since start before + rate ≤ p.checked then [.tick] else []) ∧
      (.tick ∈ t.signals ↔ since start before + rate ≤ p.checked) ∧
      t.signals.count .tick ≤ 1 ∧
      (t.wait : Int) = max 0 (since start before + rate - p.begun)) ∧
    (history rate start passes).Pairwise (fun d e =>
      .tick ∈ d.2.signals → .tick ∈ e.2.signals → d.1.restarted + rate ≤ e.1.checked) ∧
    ∀ more, run rate start passes <+: run rate start (passes ++ more) :=
  ⟨length_run rate hlasts start, events_run rate hlasts start,
    fun _ _ _ _ h => punctual hlasts hclock h, ticks_apart hlasts hclock,
    run_prefix rate start passes⟩

/-- Ticks every 250 units: a key goes down early, a new size is read in a pass that ticks, the pass
    after that comes late and ticks without waiting, and then a key goes up. -/
theorem run_forwards_late :
    let press : Key := ⟨.char 'i', .none, .press⟩
    let release : Key := ⟨.char 'i', .none, .release⟩
    let passes : List Pass :=
      [⟨0, .event (.key press), true, 100, true, 0⟩,
       ⟨100, .event (.resize 80 24), true, 260, true, 261⟩,
       ⟨600, .nothing, true, 600, true, 601⟩,
       ⟨601, .event (.key release), true, 700, true, 0⟩]
    (∀ p ∈ passes, p.Lasts) ∧ (clock 250 0 passes).Pairwise (· ≤ ·) ∧
    run 250 0 passes
      = [⟨250, [.key press]⟩, ⟨150, [.resize 80 24, .tick]⟩, ⟨0, [.tick]⟩, ⟨250, []⟩] ∧
    ((run 250 0 passes).flatMap Turn.signals).filterMap Signal.event?
      = [.key press, .resize 80 24] ∧
    (run 250 0 passes).length = 4 := by
  intro press release passes
  have hlasts : ∀ p ∈ passes, p.Lasts := by decide
  have hclock : (clock 250 0 passes).Pairwise (· ≤ ·) := by decide +kernel
  obtain ⟨hlength, hevents, -, -, -⟩ := run_forwards 250 0 passes hlasts hclock
  exact ⟨hlasts, hclock, by decide +kernel, hevents, hlength⟩

end Pump
end DriverExtension.Terminal
