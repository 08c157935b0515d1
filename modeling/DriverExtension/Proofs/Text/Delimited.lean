import Mathlib.Data.List.Basic

namespace DriverExtension.Text

/-!
# Texts between delimiters

A piece of text that does not hold the character behind it, or before it, can be told from the rest.

* `append_cons_inj_left`, `append_cons_inj_right` — two texts that are cut at the first, or at the
  last, place of a character;
* `notMem_repr`, `notMem_repr_int` — characters that do not stand in decimal numbers.
-/

variable {α : Type} {a : α} {p q s t : List α}

/-- Two texts that are cut where a character first stands have the same pieces. -/
theorem append_cons_inj_left (hp : a ∉ p) (hq : a ∉ q) (h : p ++ a :: s = q ++ a :: t) :
    p = q ∧ s = t := by
  induction p generalizing q with
  | nil =>
    cases q with
    | nil => exact ⟨rfl, (List.cons.inj h).2⟩
    | cons b q =>
      obtain rfl : a = b := (List.cons.inj h).1
      exact absurd List.mem_cons_self hq
  | cons b p ih =>
    cases q with
    | nil =>
      obtain rfl : b = a := (List.cons.inj h).1
      exact absurd List.mem_cons_self hp
    | cons b' q =>
      obtain ⟨rfl, htail⟩ := List.cons.inj h
      obtain ⟨rfl, rfl⟩ := ih (fun hmem => hp (List.mem_cons_of_mem _ hmem))
        (fun hmem => hq (List.mem_cons_of_mem _ hmem)) htail
      exact ⟨rfl, rfl⟩

/-- So do two texts that are cut where it last stands. -/
theorem append_cons_inj_right (hs : a ∉ s) (ht : a ∉ t) (h : p ++ a :: s = q ++ a :: t) :
    p = q ∧ s = t := by
  have hreverse : s.reverse ++ a :: p.reverse = t.reverse ++ a :: q.reverse := by
    simpa using congrArg List.reverse h
  obtain ⟨hst, hpq⟩ := append_cons_inj_left (by rwa [List.mem_reverse]) (by rwa [List.mem_reverse])
    hreverse
  exact ⟨List.reverse_injective hpq, List.reverse_injective hst⟩

/-! ### Decimal numbers -/

/-- A natural number is written in digits. -/
theorem isDigit_of_mem_repr {n : Nat} {c : Char} (h : c ∈ n.repr.toList) : c.isDigit = true := by
  rw [Nat.toList_repr] at h
  exact Nat.isDigit_of_mem_toDigits (by decide) (by decide) h

/-- A character that is no digit does not stand in a natural number. -/
theorem notMem_repr {c : Char} (hc : c.isDigit = false) (n : Nat) : c ∉ n.repr.toList := by
  intro hmem
  rw [isDigit_of_mem_repr hmem] at hc
  cases hc

/-- A character that is neither a digit nor a minus does not stand in an integer. -/
theorem notMem_repr_int {c : Char} (hc : c.isDigit = false) (hminus : c ≠ '-') (n : Int) :
    c ∉ n.repr.toList := by
  rw [Int.repr_eq_if]
  split
  · exact notMem_repr hc _
  · rw [String.toList_append, List.mem_append]
    rintro (hmem | hmem)
    · exact hminus (List.mem_singleton.mp hmem)
    · exact notMem_repr hc _ hmem

end DriverExtension.Text
