namespace DriverExtension.Trace

/-!
# What a run yields

A run folds a step function `next` over a list of operations.  An observation `out` says what one
operation yields in the state that it is performed in, and `collect` joins what all of them yield.

* `collect_append` — a run in two parts yields what the first yields and then what the second does;
* `collect_origin` — every entry of what a run yields comes from exactly one operation of it;
* `collect_conserves` — a queue that is kept in balance by every operation is kept so by the run.

`tally` adds up a count over a run, and `tally_balances` is the same law for a level in place of a
queue.  In `recount` an observation depends on nothing but what happened before.
-/

variable {σ α β : Type}

/-- What a run yields, in order. -/
def collect (next : σ → α → σ) (out : σ → α → List β) : σ → List α → List β
  | _, [] => []
  | s, a :: rest => out s a ++ collect next out (next s a) rest

@[simp] theorem collect_nil (next : σ → α → σ) (out : σ → α → List β) (s : σ) :
    collect next out s [] = [] := rfl

@[simp] theorem collect_cons (next : σ → α → σ) (out : σ → α → List β) (s : σ) (a : α)
    (rest : List α) :
    collect next out s (a :: rest) = out s a ++ collect next out (next s a) rest := rfl

/-- A run in two parts yields what the first part yields and then what the second one does. -/
theorem collect_append (next : σ → α → σ) (out : σ → α → List β) (s : σ) (pre post : List α) :
    collect next out s (pre ++ post)
      = collect next out s pre ++ collect next out (pre.foldl next s) post := by
  induction pre generalizing s with
  | nil => rfl
  | cons a pre ih => rw [List.cons_append, collect_cons, ih, collect_cons, List.append_assoc]; rfl

/-- Selecting from what a run yields is selecting from what each operation yields. -/
theorem filterMap_collect {γ : Type} (f : β → Option γ) (next : σ → α → σ) (out : σ → α → List β)
    (s : σ) (steps : List α) :
    (collect next out s steps).filterMap f
      = collect next (fun s a => (out s a).filterMap f) s steps := by
  induction steps generalizing s with
  | nil => rfl
  | cons a rest ih => rw [collect_cons, List.filterMap_append, ih, collect_cons]

/-- **Origin.** An entry at place `i` of what a run yields was yielded by one operation, the one
    that the count of entries passes `i` at; no other operation can have yielded it. -/
theorem collect_origin (next : σ → α → σ) (out : σ → α → List β) (s : σ) (steps : List α) (i : Nat)
    (b : β) (h : (collect next out s steps)[i]? = some b) :
    ∃ pre a post, steps = pre ++ a :: post ∧ (collect next out s pre).length ≤ i ∧
      (out (pre.foldl next s) a)[i - (collect next out s pre).length]? = some b := by
  induction steps generalizing s i with
  | nil => rw [collect_nil] at h; cases h
  | cons a rest ih =>
    rw [collect_cons] at h
    by_cases hi : i < (out s a).length
    · -- the first operation yielded it
      rw [List.getElem?_append_left hi] at h
      exact ⟨[], a, rest, rfl, Nat.zero_le i, h⟩
    · -- it is among what the rest yielded, further to the front by what the first one did
      rw [List.getElem?_append_right (by omega)] at h
      obtain ⟨pre, a', post, hsteps, hle, hout⟩ := ih (next s a) (i - (out s a).length) h
      refine ⟨a :: pre, a', post, by rw [hsteps, List.cons_append], ?_, ?_⟩
      · rw [collect_cons, List.length_append]
        omega
      · rw [collect_cons, List.length_append, List.foldl_cons, Nat.sub_add_eq]
        exact hout

/-- **Conservation.** If every operation takes from the front of a queue what it yields as `out` and
    puts at its end what it yields as `into`, then so does the run: what was taken and what is left
    is what was there and what was put. -/
theorem collect_conserves (next : σ → α → σ) (queue : σ → List β) (out into : σ → α → List β)
    (P : σ → Prop) (hP : ∀ s a, P s → P (next s a))
    (hstep : ∀ s a, P s → out s a ++ queue (next s a) = queue s ++ into s a)
    (s : σ) (hs : P s) (steps : List α) :
    collect next out s steps ++ queue (steps.foldl next s)
      = queue s ++ collect next into s steps := by
  induction steps generalizing s with
  | nil => rw [collect_nil, collect_nil, List.append_nil]; rfl
  | cons a rest ih =>
    rw [collect_cons, collect_cons, List.foldl_cons, List.append_assoc, ih (next s a) (hP s a hs),
      ← List.append_assoc, hstep s a hs, List.append_assoc]

/-- What operations yield that see nothing but the operations before them. -/
def recount (out : List α → α → List β) (before steps : List α) : List β :=
  collect (fun before a => before ++ [a]) out before steps

/-- The last operation sees all the others. -/
theorem recount_concat (out : List α → α → List β) (before steps : List α) (a : α) :
    recount out before (steps ++ [a]) = recount out before steps ++ out (before ++ steps) a := by
  have hseen : steps.foldl (fun before a => before ++ [a]) before = before ++ steps := by
    induction steps generalizing before with
    | nil => exact (List.append_nil before).symm
    | cons b rest ih => rw [List.foldl_cons, ih, List.append_assoc, List.singleton_append]
  rw [recount, collect_append, hseen, collect_cons, collect_nil, List.append_nil, recount]

/-- The sum over a run of what each operation counts. -/
def tally (next : σ → α → σ) (count : σ → α → Nat) : σ → List α → Nat
  | _, [] => 0
  | s, a :: rest => count s a + tally next count (next s a) rest

/-- **Balance.** If every operation raises a level by its gain and lowers it by its loss, then the
    level after a run is the one before it, and all gains, less all losses. -/
theorem tally_balances (next : σ → α → σ) (level : σ → Nat) (gain loss : σ → α → Nat)
    (hstep : ∀ s a, level (next s a) + loss s a = level s + gain s a) (s : σ) (steps : List α) :
    level (steps.foldl next s) + tally next loss s steps = level s + tally next gain s steps := by
  induction steps generalizing s with
  | nil => rfl
  | cons a rest ih =>
    have hfirst := hstep s a
    have hrest := ih (next s a)
    rw [List.foldl_cons, tally, tally]
    omega

end DriverExtension.Trace
