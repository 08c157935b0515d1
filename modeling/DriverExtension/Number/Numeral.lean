namespace DriverExtension.Number

/-!
# Numerals

Natural numbers as people and terminals write them.
-/

/-- The number that decimal digits spell, read from the left. -/
def ofDigits (digits : List Char) : Nat :=
  digits.foldl (fun n c => 10 * n + (c.toNat - '0'.toNat)) 0

/-- The number that a text spells: digits, before which a plus sign may stand. -/
def numeral? (s : List Char) : Option Nat :=
  let digits := match s with
    | '+' :: rest => rest
    | _ => s
  if digits.isEmpty || !digits.all Char.isDigit then none else some (ofDigits digits)

/-- The number that a text spells, if it is less than a bound. -/
def numeralBelow? (bound : Nat) (s : List Char) : Option Nat := (numeral? s).filter (· < bound)

end DriverExtension.Number
