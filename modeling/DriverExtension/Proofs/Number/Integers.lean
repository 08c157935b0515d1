import DriverExtension.Number.Scanned
import Mathlib.Data.List.Basic

namespace DriverExtension.Number

/-!
# Integers are read as they are written

An integer is written in decimal digits, without a plus sign and without zeros in front.  Where no
more of a number follows, the reader stops behind the last digit, and finds the integer if it fits
into 64 bits, with or without a sign.

* `EndsNumber` — what may follow a number;
* `accumulate_of_lt` — digits that fit into a significand are not dropped;
* `scanMagnitude_digits` — the digits of a number are read up to their end;
* `scanNumber_repr` — an integer is read back.
-/

/-- No more of a number follows: no digit, point or exponent mark. -/
def EndsNumber (rest : List Char) : Prop :=
  ∀ c ∈ rest.head?, c.isDigit = false ∧ c ≠ '.' ∧ c ≠ 'e' ∧ c ≠ 'E'

/-! ### Digits -/

/-- Digits are separated from what follows if that does not begin with a digit. -/
theorem spanDigits_append {digits rest : List Char} (hdigits : ∀ c ∈ digits, c.isDigit = true)
    (hrest : EndsNumber rest) : spanDigits (digits ++ rest) = (digits, rest) := by
  have hstop : rest.takeWhile Char.isDigit = [] ∧ rest.dropWhile Char.isDigit = rest := by
    cases rest with
    | nil => exact ⟨rfl, rfl⟩
    | cons c rest =>
      obtain ⟨hc, -⟩ := hrest c rfl
      simp [hc]
  rw [spanDigits, List.takeWhile_append_of_pos hdigits, List.dropWhile_append_of_pos hdigits,
    hstop.1, hstop.2, List.append_nil]

/-- Digits only add to a number. -/
theorem le_ofDigitChars (digits : List Char) (n : Nat) : n ≤ Nat.ofDigitChars 10 digits n := by
  induction digits generalizing n with
  | nil => exact Nat.le_refl n
  | cons d rest ih =>
    have hrest := ih (10 * n + (d.toNat - '0'.toNat))
    rw [Nat.ofDigitChars_cons]
    omega

/-- No digit is dropped from a number that fits. -/
theorem accumulate_of_lt {digits : List Char} {n : Nat}
    (h : Nat.ofDigitChars 10 digits n < significandLimit) :
    accumulate n digits = (Nat.ofDigitChars 10 digits n, []) := by
  induction digits generalizing n with
  | nil => rfl
  | cons d rest ih =>
    have hnext : n * 10 + digitValue d = 10 * n + (d.toNat - '0'.toNat) := by
      rw [digitValue, Nat.mul_comm]
    have hle := le_ofDigitChars rest (10 * n + (d.toNat - '0'.toNat))
    rw [Nat.ofDigitChars_cons] at h ⊢
    rw [accumulate, hnext, if_pos (Nat.lt_of_le_of_lt hle h), ih h]

/-- A number of several digits does not begin with a zero. -/
theorem head?_toDigits_ne_zero {n : Nat} (h : 10 ≤ n) : (Nat.toDigits 10 n).head? ≠ some '0' := by
  induction n using Nat.strongRecOn with
  | ind n ih =>
    rw [Nat.toDigits_of_base_le (by decide) h, List.head?_append_of_ne_nil _ Nat.toDigits_ne_nil]
    by_cases hten : 10 ≤ n / 10
    · exact ih (n / 10) (by omega) hten
    · -- one digit is left, and it is not zero
      have hdigit : ∀ d < 10, 1 ≤ d → Nat.digitChar d ≠ '0' := by decide
      rw [Nat.toDigits_of_lt_base (by omega), List.head?_cons]
      intro hzero
      exact hdigit (n / 10) (by omega) (by omega) (Option.some.inj hzero)

/-- So a leading zero stands alone. -/
theorem leads_without_zero (n : Nat) :
    ((Nat.toDigits 10 n).length ≠ 1 && (Nat.toDigits 10 n).head? = some '0') = false := by
  by_cases h : 10 ≤ n
  · simp [head?_toDigits_ne_zero h]
  · simp [Nat.toDigits_of_lt_base (show n < 10 by omega)]

/-! ### Integers -/

/-- The digits of a natural number are read up to their end. -/
theorem scanMagnitude_digits (negative : Bool) {n : Nat} (h : n < significandLimit)
    {rest : List Char} (hrest : EndsNumber rest) :
    scanMagnitude negative (Nat.toDigits 10 n ++ rest) = some (integer negative n, rest) := by
  have hdigits : ∀ c ∈ Nat.toDigits 10 n, c.isDigit = true := by
    intro c hc
    exact Nat.isDigit_of_mem_toDigits (by decide) (by decide) hc
  have hspan := spanDigits_append hdigits hrest
  have hvalue : Nat.ofDigitChars 10 (Nat.toDigits 10 n) 0 = n := Nat.ofDigitChars_ten_toDigits
  have haccumulate : accumulate 0 (Nat.toDigits 10 n) = (n, []) := by
    rw [accumulate_of_lt (by rwa [hvalue]), hvalue]
  have hzero := leads_without_zero n
  obtain ⟨d, ds, hds⟩ := List.exists_cons_of_ne_nil (Nat.toDigits_ne_nil (b := 10) (n := n))
  rw [hds] at hspan haccumulate hzero ⊢
  simp only [scanMagnitude, hspan, hzero, haccumulate]
  -- what follows neither begins a fraction nor an exponent
  cases rest with
  | nil => rfl
  | cons c more =>
    obtain ⟨-, hpoint, he, hE⟩ := hrest c rfl
    simp [hpoint, he, hE]

/-- **Integers.**  An integer that fits into 64 bits is read back from its text, up to what follows. -/
theorem scanNumber_repr {n : Int} (hlow : -0x8000000000000000 ≤ n) (hhigh : n < 0x10000000000000000)
    {rest : List Char} (hrest : EndsNumber rest) :
    scanNumber (n.repr.toList ++ rest) = some (.int n, rest) := by
  by_cases hn : 0 ≤ n
  · obtain ⟨d, ds, hds⟩ :=
      List.exists_cons_of_ne_nil (Nat.toDigits_ne_nil (b := 10) (n := n.toNat))
    have hminus : d ≠ '-' := by
      rintro rfl
      have hdigit : Char.isDigit '-' = true :=
        Nat.isDigit_of_mem_toDigits (by decide) (by decide) (hds ▸ List.mem_cons_self)
      cases hdigit
    have hscan : scanNumber (d :: (ds ++ rest)) = scanMagnitude false (d :: ds ++ rest) := by
      simp [scanNumber, hminus]
    rw [Int.repr_eq_if, if_pos hn, Nat.toList_repr, hds, List.cons_append, hscan, ← hds,
      scanMagnitude_digits false (by rw [significandLimit]; omega) hrest, integer,
      if_neg Bool.false_ne_true, Int.toNat_of_nonneg hn]
  · have hscan : scanNumber ('-' :: (Nat.toDigits 10 (-n).toNat ++ rest))
        = scanMagnitude true (Nat.toDigits 10 (-n).toNat ++ rest) := rfl
    have hsmall : ¬ ((-n).toNat = 0 || 0x8000000000000000 < (-n).toNat) = true := by
      simp only [Bool.or_eq_true, decide_eq_true_eq, not_or]
      omega
    have hvalue : -((-n).toNat : Int) = n := by omega
    rw [Int.repr_eq_if, if_neg hn, String.toList_append, Nat.toList_repr]
    show scanNumber ('-' :: (Nat.toDigits 10 (-n).toNat ++ rest)) = _
    rw [hscan, scanMagnitude_digits true (by rw [significandLimit]; omega) hrest, integer, if_pos rfl,
      if_neg hsmall, hvalue]

end DriverExtension.Number
