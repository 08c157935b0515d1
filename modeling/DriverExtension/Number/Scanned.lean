import DriverExtension.Number.Binary64

namespace DriverExtension.Number

/-!
# Reading decimal numbers

A decimal literal is read into a significand of at most 64 bits and a power of ten; digits that no
longer fit are dropped and only move the exponent.  The value is the significand rounded, then
multiplied or divided by the rounded power of ten, so it can be off by a unit in the last place.
-/

/-- A number as it stands in a text. -/
inductive Scanned where
  | int (n : Int)
  | float (x : Binary64)
  /-- The literal is well formed but its value is out of range. -/
  | outOfRange
deriving DecidableEq, Repr

/-- The value of a decimal digit. -/
def digitValue (c : Char) : Nat := c.toNat - '0'.toNat

/-- The digits at the beginning of a text, and what follows them. -/
def spanDigits (s : List Char) : List Char × List Char :=
  (s.takeWhile Char.isDigit, s.dropWhile Char.isDigit)

/-- The bound of significands. -/
def significandLimit : Nat := 0x10000000000000000

/-- The bound of exponents as they are written. -/
def exponentLimit : Nat := 0x80000000

/-- Adds digits to a significand while it fits; returns it with the digits left over. -/
def accumulate (significand : Nat) : List Char → Nat × List Char
  | [] => (significand, [])
  | d :: rest =>
    let next := significand * 10 + digitValue d
    if next < significandLimit then accumulate next rest else (significand, d :: rest)

/-- Divides by `10 ^ 308` until the remaining negative exponent is at least `-308`; after `fuel`
divisions every significand has become zero. -/
def scaleDown (fuel : Nat) (x : Binary64) (exponent : Nat) : Binary64 :=
  match fuel with
  | 0 => .zero false
  | fuel + 1 =>
    if exponent ≤ 308 then x.dividedBy (.ofNat (Nat.pow 10 exponent))
    else if x.isZero then x
    else scaleDown fuel (x.dividedBy (.ofNat (Nat.pow 10 308))) (exponent - 308)

/-- The number `significand · 10 ^ exponent`, if it is in range. -/
def scale (negative : Bool) (significand : Nat) (exponent : Int) : Scanned :=
  let x := Binary64.ofNat significand
  let signed (x : Binary64) : Scanned := .float (if negative then x.negate else x)
  if exponent < 0 then signed (scaleDown 8 x exponent.natAbs)
  else if exponent ≤ 308 then
    let y := x.times (.ofNat (Nat.pow 10 exponent.toNat))
    if y.isInfinite then .outOfRange else signed y
  else if x.isZero then signed x
  else .outOfRange

/-- An integer literal without fraction and exponent. -/
def integer (negative : Bool) (significand : Nat) : Scanned :=
  if negative then
    if significand = 0 || 0x8000000000000000 < significand then
      .float (Binary64.ofNat significand).negate
    else .int (-significand)
  else .int significand

/-- What follows an exponent mark: sign and digits, if there are any. -/
def scanExponent (s : List Char) : Option (Bool × List Char × List Char) :=
  let (negative, s) := match s with
    | '+' :: r => (false, r)
    | '-' :: r => (true, r)
    | _ => (false, s)
  match spanDigits s with
  | ([], _) => none
  | (digits, rest) => some (negative, digits, rest)

/-- The value of digits. -/
def digitsValue (digits : List Char) : Nat := digits.foldl (fun n d => n * 10 + digitValue d) 0

/-- Applies a written exponent; one that is out of bounds makes zero or is out of range. -/
def applyExponent (negative : Bool) (significand : Nat) (exponent : Int) (down : Bool)
    (digits : List Char) : Scanned :=
  let e := digitsValue digits
  if exponentLimit ≤ e then
    if significand ≠ 0 && !down then .outOfRange else .float (.zero negative)
  else scale negative significand (if down then exponent - e else exponent + e)

/-- The number at the beginning of a text behind its sign, and what follows it; `none` if the literal
is malformed. -/
def scanMagnitude (negative : Bool) (s : List Char) : Option (Scanned × List Char) :=
  match spanDigits s with
  | ([], _) => none
  | (digits, rest) =>
    if digits.length ≠ 1 && digits.head? = some '0' then none
    else
      let (significand, dropped) := accumulate 0 digits
      let exponent : Int := dropped.length
      let finish (significand : Nat) (exponent : Int) (whole : Scanned) (rest : List Char) :=
        match rest with
        | 'e' :: r | 'E' :: r =>
          (scanExponent r).map fun (down, ds, rest) =>
            (applyExponent negative significand exponent down ds, rest)
        | _ => some (whole, rest)
      match rest with
      | '.' :: r =>
        match spanDigits r with
        | ([], _) => none
        | (decimals, rest) =>
          let (significand, dropped) := accumulate significand decimals
          let exponent := exponent - (decimals.length - dropped.length : Nat)
          finish significand exponent (scale negative significand exponent) rest
      | _ =>
        finish significand exponent
          (if dropped.isEmpty then integer negative significand
            else scale negative significand exponent)
          rest

/-- The number at the beginning of a text that starts with a digit or a minus sign, and what follows
it; `none` if the literal is malformed. -/
def scanNumber (s : List Char) : Option (Scanned × List Char) :=
  match s with
  | '-' :: r => scanMagnitude true r
  | _ => scanMagnitude false s

end DriverExtension.Number
