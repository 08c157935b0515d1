import DriverExtension.Text.Cluster
import DriverExtension.Text.Width

namespace DriverExtension.Text

/-!
# Text of printable characters

A printable ASCII character stands alone, whatever is beside it, and takes one column.

* `IsPrintable` — the printable characters;
* `clusters_of_printable` — each is a cluster;
* `columnsOf_of_printable` — each takes a column.
-/

/-- The printable characters of ASCII, from the space to the tilde. -/
def IsPrintable (c : Char) : Prop := 0x20 ≤ c.toNat ∧ c.toNat < 0x7f

instance (c : Char) : Decidable (IsPrintable c) := inferInstanceAs (Decidable (_ ∧ _))

namespace IsPrintable

variable {c : Char}

theorem ne_lineFeed (h : IsPrintable c) : c ≠ '\n' := by
  rintro rfl
  exact absurd h (by decide)

theorem class_eq (h : IsPrintable c) : ClusterClass.ofChar c = .other := by
  have hreturn : c ≠ '\r' := by
    rintro rfl
    exact absurd h (by decide)
  have hcontrol : ¬ c.toNat < 0x20 := Nat.not_lt.mpr h.1
  simp only [ClusterClass.ofChar]
  rw [if_neg hreturn, if_neg h.ne_lineFeed, if_pos h.2, if_neg hcontrol]

/-- Before text that asks nothing of it, a printable character takes a column and asks nothing
    either. -/
theorem add_eq (h : IsPrintable c) (width : Int) :
    Tail.add ⟨width, .plain, .usual⟩ c = ⟨width + 1, .plain, .usual⟩ := by
  have hpicture : c ≠ pictureSelector := by
    rintro rfl
    exact absurd h (by decide)
  have hplain : c ≠ plainSelector := by
    rintro rfl
    exact absurd h (by decide)
  have hlow : c.toNat ≤ 0xa0 := Nat.le_trans (Nat.le_of_lt h.2) (by decide)
  have htrail : Trail.ofChar c = .plain := by
    rw [Trail.ofChar, if_neg h.ne_lineFeed, if_pos hlow]
  have hstep : Trail.plain.step c = (1, .plain) := by
    simp [Trail.step, hlow, htrail]
  show Tail.addUsual ⟨width, .plain, .usual⟩ c = _
  rw [Tail.addUsual, if_neg hpicture, if_neg hplain, hstep]
  rfl

end IsPrintable

/-- A printable character does not go on with the cluster of another one. -/
theorem clustersFrom_of_printable (c : Char) {cs : List Char} (h : ∀ d ∈ cs, IsPrintable d) :
    clustersFrom (.start .other) [c] cs = [c] :: cs.map fun d => [d] := by
  induction cs generalizing c with
  | nil => rfl
  | cons d rest ih =>
    have hd : IsPrintable d := h d List.mem_cons_self
    have halone : (ClusterState.start .other).continues .other = false := rfl
    rw [clustersFrom]
    simp only [hd.class_eq, halone]
    rw [ih d fun e he => h e (List.mem_cons_of_mem d he)]
    rfl

/-- Printable characters are clusters on their own. -/
theorem clusters_of_printable {cs : List Char} (h : ∀ c ∈ cs, IsPrintable c) :
    clusters cs = cs.map fun c => [c] := by
  cases cs with
  | nil => rfl
  | cons c rest =>
    rw [clusters, (h c List.mem_cons_self).class_eq]
    exact clustersFrom_of_printable c fun d hd => h d (List.mem_cons_of_mem c hd)

/-- Printable characters take a column each. -/
theorem columnsOf_of_printable {cs : List Char} (h : ∀ c ∈ cs, IsPrintable c) :
    columnsOf cs = cs.length := by
  have htail : cs.foldr (fun c tail => tail.add c) Tail.empty = ⟨cs.length, .plain, .usual⟩ := by
    induction cs with
    | nil => rfl
    | cons c rest ih =>
      rw [List.foldr_cons, ih fun d hd => h d (List.mem_cons_of_mem c hd),
        (h c List.mem_cons_self).add_eq]
      rfl
  rw [columnsOf, htail]
  rfl

end DriverExtension.Text
