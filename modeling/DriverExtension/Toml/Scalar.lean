import DriverExtension.Document.Basic
import DriverExtension.Toml.Text

namespace DriverExtension.Toml

open Number

/-!
# Numbers and dates of TOML

The values that begin with a digit or a sign.  Of dates and times only the form is checked; nothing
reads their value.

* `dateTime` — dates, times and both;
* `float`    — numbers with a fraction or an exponent, infinities and the like;
* `integer`  — whole numbers in base 10, 16, 8 and 2;
* `number`   — the first of these that fits.
-/

/-- A given character. -/
def symbol (c : Char) (s : List Char) : Read Unit :=
  match s with
  | d :: rest => if d = c then .ok ((), rest) else nothing s
  | [] => nothing s

/-- A sign, if there is one; tells whether it is a minus. -/
def sign (s : List Char) : Bool × List Char :=
  match s with
  | '+' :: rest => (false, rest)
  | '-' :: rest => (true, rest)
  | _ => (false, s)

/-- The number that digits spell in a base. -/
def digitsValue (base : Nat) (digits : List Char) : Nat :=
  digits.foldl (fun n d => n * base + (hexValue? d).getD 0) 0

/-! ### Dates and times -/

/-- A number of exactly so many decimal digits. -/
def fixedDigits (n : Nat) (s : List Char) : Read Nat :=
  let digits := s.take n
  if digits.length = n && digits.all Char.isDigit then .ok (digitsValue 10 digits, s.drop n)
  else nothing s

/-- A number of two digits between bounds. -/
def twoDigits (first last : Nat) (s : List Char) : Except Fault (Rest Nat) := do
  let (n, rest) ← fixedDigits 2 s
  if first ≤ n && n ≤ last then return (n, rest) else throw (.outOfRange s)

/-- The days of a month. -/
def daysOfMonth (year month : Nat) : Nat :=
  if month = 2 then
    (if year % 4 = 0 && (year % 100 ≠ 0 || year % 400 = 0) then 29 else 28)
  else if month = 4 || month = 6 || month = 9 || month = 11 then 30
  else 31

/-- A date as year, month and day. -/
def date (s : List Char) : Except Fault (Rest Unit) := do
  let (year, s) ← fixedDigits 4 s
  let (_, s) ← symbol '-' s
  let (month, s) ← hard (twoDigits 1 12 s)
  let (_, s) ← hard (symbol '-' s)
  let (day, rest) ← hard (twoDigits 1 31 s)
  if day ≤ daysOfMonth year month then return ((), rest) else throw (Fault.outOfRange s).hard

/-- The text after a fraction of a second, if there is one. -/
def skipFraction (s : List Char) : List Char :=
  match s with
  | '.' :: c :: rest => if c.isDigit then rest.dropWhile Char.isDigit else s
  | _ => s

/-- Minutes and seconds, and maybe a fraction. -/
def minutes (s : List Char) : Except Fault (Rest Unit) := do
  let (_, s) ← twoDigits 0 59 s
  let (_, s) ← symbol ':' s
  let (_, s) ← twoDigits 0 60 s
  return ((), skipFraction s)

/-- A time of day. -/
def time (s : List Char) : Except Fault (Rest Unit) := do
  let (_, s) ← twoDigits 0 23 s
  let (_, s) ← symbol ':' s
  hard (minutes s)

/-- Hours and minutes. -/
def hours (s : List Char) : Except Fault (Rest Unit) := do
  let (_, s) ← twoDigits 0 23 s
  let (_, s) ← symbol ':' s
  let (_, s) ← twoDigits 0 59 s
  return ((), s)

/-- An offset from universal time. -/
def offset (s : List Char) : Read Unit :=
  match s with
  | 'Z' :: rest | 'z' :: rest => .ok ((), rest)
  | '+' :: rest | '-' :: rest => labelled "time offset" (hard (hours rest))
  | _ => nothing s

/-- A time after a date, joined to it by a letter or a blank, and maybe an offset. -/
def joinedTime (s : List Char) : Except Fault (Rest Unit) :=
  match s with
  | 'T' :: rest | 't' :: rest | ' ' :: rest => do
    let (_, s) ← time rest
    return ((), ← pass (offset s) s)
  | _ => nothing s

/-- A date, a time, or both. -/
def dateTime (s : List Char) : Read Document :=
  let dated : Except Fault (Rest Unit) := do
    let (_, s) ← date s
    return ((), ← pass (joinedTime s) s)
  become (fun _ => .date)
    (orElse (labelled "date-time" dated) fun _ => labelled "time" (time s))

/-! ### Digits -/

/-- Digits after a first one; between two of them one underscore may stand, which is left out. -/
def moreDigits (isDigit : Char → Bool) : List Char → Read (List Char)
  | [] => .ok ([], [])
  | ['_'] => .error (((Fault.here []).expecting ["digit"]).hard)
  | '_' :: d :: rest =>
    if isDigit d then prepend d (moreDigits isDigit rest)
    else .error (((Fault.here (d :: rest)).expecting ["digit"]).hard)
  | d :: rest => if isDigit d then prepend d (moreDigits isDigit rest) else .ok ([], d :: rest)

/-- Digits, at least one. -/
def digits (isDigit : Char → Bool) (s : List Char) : Read (List Char) :=
  match s with
  | d :: rest => if isDigit d then prepend d (moreDigits isDigit rest) else nothing s
  | [] => nothing s

/-- Decimal digits without a zero in front, unless they are only a zero. -/
def whole (s : List Char) : Read (List Char) :=
  match s with
  | '0' :: rest => .ok (['0'], rest)
  | s => digits Char.isDigit s

/-- A decimal number with its sign. -/
def decimal (s : List Char) : Read (Bool × List Char) :=
  let (negative, s) := sign s
  labelled "integer" (become (negative, ·) (whole s))

/-! ### Floats -/

/-- The number nearest to `± digits · 10 ^ exponent`. -/
def decimalFloat (negative : Bool) (digits : List Char) (exponent : Int) : Binary64 :=
  let n := digitsValue 10 digits
  let leading : Int := exponent + digits.length
  if n = 0 || leading < -400 then .zero negative
  else if n ≠ 0 && 400 + (digits.length : Int) < leading then .infinite negative
  else if exponent < 0 then .ofRatio negative n (Nat.pow 10 exponent.natAbs)
  else .ofRatio negative (n * Nat.pow 10 exponent.toNat) 1

/-- An exponent with its mark. -/
def exponent (s : List Char) : Read Int :=
  match s with
  | 'e' :: rest | 'E' :: rest =>
    let (negative, rest) := sign rest
    become (fun ds => if negative then -(digitsValue 10 ds : Int) else digitsValue 10 ds)
      (hard (digits Char.isDigit rest))
  | _ => nothing s

/-- A fraction with its point. -/
def fraction (s : List Char) : Read (List Char) :=
  match s with
  | '.' :: rest => expecting ["digit"] (hard (digits Char.isDigit rest))
  | _ => nothing s

/-- A fraction that an exponent may follow. -/
def scaledFraction (s : List Char) : Except Fault (Rest (List Char × Int)) := do
  let (ds, rest) ← fraction s
  match exponent rest with
  | .ok (e, rest) => return ((ds, e), rest)
  | .error f => if f.soft then return ((ds, 0), rest) else throw f

/-- An exponent, or a fraction that an exponent may follow. -/
def scale (s : List Char) : Read (List Char × Int) :=
  orElse (become ([], ·) (exponent s)) fun _ => scaledFraction s

/-- A number with a fraction or an exponent; it must not be too large. -/
def scaled (s : List Char) : Except Fault (Rest Document) := do
  let ((negative, ds), rest) ← decimal s
  let ((more, e), rest) ← scale rest
  match decimalFloat negative (ds ++ more) (e - more.length) with
  | .infinite false => throw (Fault.here s).hard
  | x => return (.float x, rest)

/-- A word for no ordinary number, with its sign. -/
def special (s : List Char) : Read Document :=
  match sign s with
  | (negative, 'i' :: 'n' :: 'f' :: rest) => .ok (.float (.infinite negative), rest)
  | (_, 'n' :: 'a' :: 'n' :: rest) => .ok (.float .nan, rest)
  | (_, s) => nothing s

/-- A number that need not be whole. -/
def float (s : List Char) : Read Document :=
  labelled "floating-point number" (orElse (scaled s) fun _ => special s)

/-! ### Integers -/

/-- An integer that begins a text, if it fits into 64 bits. -/
def bounded (s : List Char) (negative : Bool) (n : Nat) : Except Fault Document :=
  if negative then
    (if n ≤ 0x8000000000000000 then .ok (.int (-n))
     else .error (Fault.because s "number too small to fit in target type").hard)
  else
    (if n < 0x8000000000000000 then .ok (.int n)
     else .error (Fault.because s "number too large to fit in target type").hard)

/-- An integer in base 16, 8 or 2, whose mark has been read; `s` is where it begins. -/
def radix (s : List Char) (base : Nat) (name : String) (rest : List Char) :
    Except Fault (Rest Document) := do
  let isDigit (c : Char) : Bool := (hexValue? c).any (· < base)
  let (ds, rest) ← labelled (name ++ " integer") (hard (digits isDigit rest))
  return (← bounded s false (digitsValue base ds), rest)

/-- A whole number. -/
def integer (s : List Char) : Except Fault (Rest Document) :=
  match s with
  | '0' :: 'x' :: rest => radix s 16 "hexadecimal" rest
  | '0' :: 'o' :: rest => radix s 8 "octal" rest
  | '0' :: 'b' :: rest => radix s 2 "binary" rest
  | s => do
    let ((negative, ds), rest) ← decimal s
    return (← bounded s negative (digitsValue 10 ds), rest)

/-- A date or a number. -/
def number (s : List Char) : Read Document :=
  orElse (dateTime s) fun _ => orElse (float s) fun _ => integer s

end DriverExtension.Toml
