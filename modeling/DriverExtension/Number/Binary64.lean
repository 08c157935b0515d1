namespace DriverExtension.Number

/-!
# Double precision numbers

A finite number is `± significand · 2 ^ exponent` with a significand below `2 ^ 53`; it is kept with
the least exponent that its value allows, so equal values are equal terms.

* `Binary64.ofRatio` — the number nearest to a fraction, a tie going to the even significand;
* `Binary64.times`, `Binary64.dividedBy` — the arithmetic that reading a decimal needs.
-/

/-- A double precision number. -/
inductive Binary64 where
  | finite (negative : Bool) (significand : Nat) (exponent : Int)
  | infinite (negative : Bool)
  | nan
deriving DecidableEq, Repr

namespace Binary64

/-- The least exponent of a finite number. -/
def leastExponent : Int := -1074

/-- The greatest exponent of a finite number. -/
def greatestExponent : Int := 971

/-- Zero of either sign. -/
def zero (negative : Bool) : Binary64 := .finite negative 0 leastExponent

/-- Whether the number is zero of either sign. -/
def isZero : Binary64 → Bool
  | .finite _ m _ => m == 0
  | _ => false

/-- Whether the number is infinite. -/
def isInfinite : Binary64 → Bool
  | .infinite _ => true
  | _ => false

/-- The number with the other sign. -/
def negate : Binary64 → Binary64
  | .finite s m q => .finite (!s) m q
  | .infinite s => .infinite (!s)
  | .nan => .nan

/-- The quotient of two natural numbers rounded to the nearest, a tie going to the even one. -/
def roundDiv (num den : Nat) : Nat :=
  let quotient := num / den
  let twice := 2 * (num % den)
  if den < twice || (twice = den && quotient % 2 = 1) then quotient + 1 else quotient

/-- `num / den` divided by `2 ^ q`, as a fraction. -/
def shiftDown (num den : Nat) (q : Int) : Nat × Nat :=
  if 0 ≤ q then (num, den * Nat.pow 2 q.toNat) else (num * Nat.pow 2 (-q).toNat, den)

/-- The greatest `e` with `2 ^ e ≤ num / den`, for positive numbers. -/
def binaryExponent (num den : Nat) : Int :=
  let e : Int := (num.log2 : Int) - (den.log2 : Int)
  let (n, d) := shiftDown num den e
  if n < d then e - 1 else e

/-- The number nearest to `± num / den`. -/
def ofRatio (negative : Bool) (num den : Nat) : Binary64 :=
  if num = 0 then zero negative
  else
    let q := max leastExponent (binaryExponent num den - 52)
    let (n, d) := shiftDown num den q
    let m := roundDiv n d
    let (m, q) := if m = Nat.pow 2 53 then (Nat.pow 2 52, q + 1) else (m, q)
    if greatestExponent < q then .infinite negative else .finite negative m q

/-- The number nearest to a natural number. -/
def ofNat (n : Nat) : Binary64 := ofRatio false n 1

/-- The magnitude of a finite number as a fraction. -/
def ratio (m : Nat) (q : Int) : Nat × Nat :=
  if 0 ≤ q then (m * Nat.pow 2 q.toNat, 1) else (m, Nat.pow 2 (-q).toNat)

/-- The product of two numbers, rounded. -/
def times : Binary64 → Binary64 → Binary64
  | .finite s m q, .finite t n r =>
    let (num, den) := ratio (m * n) (q + r)
    ofRatio (s != t) num den
  | .nan, _ | _, .nan => .nan
  | .infinite s, .finite t n _ => if n = 0 then .nan else .infinite (s != t)
  | .finite s m _, .infinite t => if m = 0 then .nan else .infinite (s != t)
  | .infinite s, .infinite t => .infinite (s != t)

/-- The quotient of two numbers, rounded. -/
def dividedBy : Binary64 → Binary64 → Binary64
  | .finite s m q, .finite t n r =>
    if n = 0 then (if m = 0 then .nan else .infinite (s != t))
    else
      let (num, den) := ratio m (q - r)
      ofRatio (s != t) num (den * n)
  | .nan, _ | _, .nan => .nan
  | .infinite s, .finite t _ _ => .infinite (s != t)
  | .finite s _ _, .infinite t => zero (s != t)
  | .infinite _, .infinite _ => .nan

end Binary64
end DriverExtension.Number
