import DriverExtension.Number.Binary64

namespace DriverExtension.Number

/-!
# The shortest decimal of a number

`shortest` finds the decimal with the fewest digits that reads back as a given number, and among
those the nearest to it.  `FloatStyle` says how such a decimal is written.
-/

/-- The decimal `digits · 10 ^ exponent`. -/
structure Decimal where
  digits : Nat
  exponent : Int
deriving DecidableEq, Repr

/-- Which of two equally near decimals is taken. -/
inductive Tie where
  /-- The one whose last digit is even. -/
  | toEven
  /-- The one farther from zero. -/
  | upward
deriving DecidableEq, Repr

/-- Whether the lower of two neighbouring decimals is taken, given twice the distance to it and the
distance between the two. -/
def Tie.takesLower (tie : Tie) (lower twice unit : Nat) : Bool :=
  twice < unit || (twice = unit && tie = .toEven && lower % 2 = 0)

/-- The greatest `e` with `10 ^ e ≤ num / den`, for positive numbers. -/
def decimalExponent (num den : Nat) : Int :=
  if den ≤ num then (((Nat.toDigits 10 (num / den)).length : Int) - 1)
  else
    let k := (Nat.toDigits 10 (den / num)).length
    if num * Nat.pow 10 (k - 1) = den then -((k : Int) - 1) else -(k : Int)

/-- The decimals with exponent `g` next to `num / den`, below and above. -/
def neighbours (num den : Nat) (g : Int) : Nat × Nat × Nat × Nat :=
  let (n, d) := if 0 ≤ g then (num, den * Nat.pow 10 g.toNat) else (num * Nat.pow 10 (-g).toNat, den)
  (n / d, n / d + 1, n, d)

/-- The shortest decimal that reads back as `m · 2 ^ q`, for positive `m`. -/
def shortest (tie : Tie) (m : Nat) (q : Int) : Decimal :=
  let below := if m = Nat.pow 2 52 && Binary64.leastExponent < q then 1 else 2
  let (num, den) := Binary64.ratio (4 * m) (q - 2)
  let (unit, _) := Binary64.ratio 1 (q - 2)
  let low := num - below * unit
  let high := num + 2 * unit
  let closed := m % 2 = 0
  let inside (d : Nat) (g : Int) : Bool :=
    let (l, r) :=
      if 0 ≤ g then (d * Nat.pow 10 g.toNat * den, 1) else (d * den, Nat.pow 10 (-g).toNat)
    if closed then low * r ≤ l && l ≤ high * r else low * r < l && l < high * r
  let e := decimalExponent num den
  let candidate (n : Nat) : Option Decimal :=
    let g := e - n
    let (lower, upper, p, s) := neighbours num den g
    match inside lower g && lower != 0, inside upper g with
    | true, true => some ⟨if tie.takesLower lower (2 * (p - lower * s)) s then lower else upper, g⟩
    | true, false => some ⟨lower, g⟩
    | false, true => some ⟨upper, g⟩
    | false, false => none
  ((List.range 17).findSome? candidate).getD ⟨m, 0⟩

/-- Decimal digits without zeros at the end, with the exponent raised accordingly. -/
def Decimal.trimmed (x : Decimal) : List Char × Int :=
  let digits := Nat.toDigits 10 x.digits
  let zeros := (digits.reverse.takeWhile (· = '0')).length
  let kept := digits.take (digits.length - zeros)
  (if kept.isEmpty then ['0'] else kept, x.exponent + zeros)

/-- How finite numbers are written: those whose leading digit has an exponent in
`[least, below)` positionally, the others with an exponent; no bounds mean always positionally. -/
structure FloatStyle where
  tie : Tie
  bounds : Option (Int × Int)
  infinity : String
  notANumber : String

/-- Digits with the point after `point` of them, zeros filled in on either side. -/
def positional (digits : List Char) (point : Int) : String :=
  let zeros (n : Nat) := List.replicate n '0'
  String.ofList <|
    if point ≤ 0 then '0' :: '.' :: (zeros (-point).toNat ++ digits)
    else
      let n := point.toNat
      if digits.length ≤ n then digits ++ zeros (n - digits.length) ++ ['.', '0']
      else digits.take n ++ '.' :: digits.drop n

/-- Digits with the point after the first and a signed exponent. -/
def scientific (digits : List Char) (exponent : Int) : String :=
  let mantissa := match digits with
    | [] => ['0']
    | [d] => [d]
    | d :: rest => d :: '.' :: rest
  let size := Nat.toDigits 10 exponent.natAbs
  String.ofList (mantissa ++ 'e' :: (if exponent < 0 then '-' else '+') :: size)

/-- The text of a number. -/
def FloatStyle.write (style : FloatStyle) (x : Binary64) : String :=
  match x with
  | .nan => style.notANumber
  | .infinite s => (if s then "-" else "") ++ style.infinity
  | .finite s m q =>
    (if s then "-" else "") ++
      if m = 0 then "0.0"
      else
        let (digits, exponent) := (shortest style.tie m q).trimmed
        let leading := exponent + digits.length - 1
        match style.bounds with
        | none => positional digits (leading + 1)
        | some (least, below) =>
          if least ≤ leading && leading < below then positional digits (leading + 1)
          else scientific digits leading

end DriverExtension.Number
