namespace DriverExtension.Text

/-!
# Sets of code points

A set of characters is a list of closed ranges of code points in increasing order.  The tables of
character properties in the neighbouring modules have this form.
-/

/-- Closed ranges of code points. -/
abbrev Ranges := List (Nat × Nat)

/-- Whether a character lies in one of the ranges. -/
def Ranges.contains (ranges : Ranges) (c : Char) : Bool :=
  ranges.any fun range => range.1 ≤ c.toNat && c.toNat ≤ range.2

end DriverExtension.Text
