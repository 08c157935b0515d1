import DriverExtension.Text.Alphanumeric
import DriverExtension.Text.Blank

namespace DriverExtension.Log

open Text

/-!
# Patterns of field values

A rule of a filter may ask that the value of a field is a number or matches a regular expression.
No record of this program has such fields, so nothing is ever matched; but a rule whose pattern is no
regular expression cannot be read.  The expressions know no classes of characters beyond ASCII, and
match text only, never single bytes of it.

* `Pattern.Options`   — the options that an expression can switch;
* `Pattern.Atom`      — what a backslash introduces;
* `Pattern.classBody` — a class in brackets;
* `Pattern.isNumber`, `Pattern.isExpression` — the two kinds of values.
-/

namespace Pattern

/-! ### Options -/

/-- The options that decide what an expression may hold. -/
structure Options where
  /-- Upper and lower case are the same. -/
  caseless : Bool
  /-- Characters are characters of all scripts. -/
  unicode : Bool
  /-- Blanks and comments between the parts are skipped. -/
  spaced : Bool
deriving DecidableEq, Repr

namespace Options

/-- The options at the beginning. -/
def standard : Options := ⟨false, true, false⟩

/-- The text after blanks and comments; `inComment` tells whether a comment is being skipped. -/
def skipSpace (inComment : Bool) : List Char → List Char
  | [] => []
  | c :: rest =>
    if inComment then skipSpace (c ≠ '\n') rest
    else if blank.contains c then skipSpace false rest
    else if c = '#' then skipSpace true rest
    else c :: rest

/-- The text at the next part of an expression. -/
def skip (o : Options) (s : List Char) : List Char := if o.spaced then skipSpace false s else s

/-- The options with one of them switched, if there is one of that letter. -/
def switch? (o : Options) (on : Bool) : Char → Option Options
  | 'i' => some { o with caseless := on }
  | 'u' => some { o with unicode := on }
  | 'x' => some { o with spaced := on }
  | 'm' | 's' | 'U' | 'R' => some o
  | _ => none

/-- Reads letters of options up to a closing parenthesis or a colon; those after a minus are switched
off.  No letter, and no minus, may stand twice.  Also tells whether there were any, and whether a
parenthesis closed them. -/
def read (o : Options) (seen : List Char) : List Char → Option (Options × Bool × Bool × List Char)
  | [] => none
  | c :: rest =>
    if c = ')' || c = ':' then
      if seen.head? = some '-' then none else some (o, !seen.isEmpty, c = ')', rest)
    else if seen.contains c then none
    else if c = '-' then read o (c :: seen) rest
    else
      match o.switch? (!seen.contains '-') c with
      | some o => read o (c :: seen) rest
      | none => none

end Options

/-! ### Escapes -/

/-- What a single character or a backslash stands for. -/
inductive Atom where
  /-- A character; `numbered` tells whether it was given as a byte in hexadecimal digits. -/
  | literal (code : Nat) (numbered : Bool)
  /-- Digits, blanks or word characters, or all others. -/
  | group (members : Nat → Bool) (negated : Bool)
  /-- The characters with a property. -/
  | property
  /-- A place between a word and what is no word. -/
  | wordEdge
  /-- The beginning or the end of the text. -/
  | edge

/-- Whether an ASCII code is a digit. -/
def isDigitCode (n : Nat) : Bool := 0x30 ≤ n && n ≤ 0x39

/-- Whether an ASCII code is a small letter. -/
def isLowerCode (n : Nat) : Bool := 0x61 ≤ n && n ≤ 0x7a

/-- Whether an ASCII code is a capital. -/
def isUpperCode (n : Nat) : Bool := 0x41 ≤ n && n ≤ 0x5a

/-- Whether an ASCII code is a letter. -/
def isLetterCode (n : Nat) : Bool := isLowerCode n || isUpperCode n

/-- Whether an ASCII code is part of a word. -/
def isWordCode (n : Nat) : Bool := isLetterCode n || isDigitCode n || n = 0x5f

/-- Whether an ASCII code is a blank. -/
def isBlankCode (n : Nat) : Bool := (9 ≤ n && n ≤ 13) || n = 0x20

/-- The value of a hexadecimal digit. -/
def hexDigit? (c : Char) : Option Nat :=
  if isDigitCode c.toNat then some (c.toNat - 0x30)
  else if 'a' ≤ c && c ≤ 'f' then some (c.toNat - 0x57)
  else if 'A' ≤ c && c ≤ 'F' then some (c.toNat - 0x37)
  else none

/-- A number of hexadecimal digits, and the text after them. -/
def hexDigits (o : Options) (count value : Nat) (s : List Char) : Option (Nat × List Char) :=
  match count, o.skip s with
  | 0, s => some (value, s)
  | _ + 1, [] => none
  | count + 1, c :: rest =>
    match hexDigit? c with
    | some digit => hexDigits o count (value * 16 + digit) rest
    | none => none

/-- A character by its number. -/
def numbered (o : Options) (count : Nat) (s : List Char) : Option (Atom × List Char) :=
  match hexDigits o count 0 s with
  | some (n, rest) =>
    if n < 0xd800 || (0xdfff < n && n < 0x110000) then some (.literal n (count = 2), rest) else none
  | none => none

/-- The characters with a meaning in expressions. -/
def marks : List Char := "\\.+*?()|[]\x7b\x7d^$#&-~".toList

/-- The letters after a backslash that stand for control characters. -/
def controls : List Char := ['a', 'f', 't', 'n', 'r', 'v']

/-- Whether a backslash before a character changes nothing, or takes its meaning away. -/
def isPlainEscape (c : Char) : Bool :=
  marks.contains c ||
    (c.toNat < 0x80 && !isLetterCode c.toNat && !isDigitCode c.toNat && c ≠ '<' && c ≠ '>')

/-- What follows a backslash. -/
def escape (o : Options) : List Char → Option (Atom × List Char)
  | [] => none
  | 'x' :: rest => numbered o 2 rest
  | 'u' :: rest => numbered o 4 rest
  | 'U' :: rest => numbered o 8 rest
  | 'p' :: _ | 'P' :: _ => some (.property, [])
  | 'd' :: rest => some (.group isDigitCode false, rest)
  | 'D' :: rest => some (.group isDigitCode true, rest)
  | 's' :: rest => some (.group isBlankCode false, rest)
  | 'S' :: rest => some (.group isBlankCode true, rest)
  | 'w' :: rest => some (.group isWordCode false, rest)
  | 'W' :: rest => some (.group isWordCode true, rest)
  | 'A' :: rest | 'z' :: rest => some (.edge, rest)
  | 'b' :: rest | 'B' :: rest | '<' :: rest | '>' :: rest => some (.wordEdge, rest)
  | c :: rest =>
    if isPlainEscape c || controls.contains c then some (.literal c.toNat false, rest) else none

/-- Whether an atom may stand where the options are in force. -/
def Options.admits (o : Options) : Atom → Bool
  | .literal code numbered =>
    if o.unicode then !o.caseless else !(numbered && 0x7f < code)
  | .group _ negated => !o.unicode && !negated
  | .property => false
  | .wordEdge => !o.unicode
  | .edge => true

/-! ### Classes in brackets -/

/-- How two classes are joined. -/
inductive Joint where
  | both
  | difference
  | oneOnly
deriving DecidableEq, Repr

/-- A class that is being read: the one before the joint, and what has been listed since. -/
structure ClassFrame where
  negated : Bool
  before : Option (Joint × (Nat → Bool))
  members : Nat → Bool

namespace ClassFrame

/-- An empty class. -/
def start (negated : Bool) : ClassFrame := ⟨negated, none, fun _ => false⟩

/-- A class with more members. -/
def add (f : ClassFrame) (more : Nat → Bool) : ClassFrame :=
  { f with members := fun n => f.members n || more n }

/-- The members of a class, not yet negated. -/
def joined (f : ClassFrame) : Nat → Bool :=
  match f.before with
  | none => f.members
  | some (.both, before) => fun n => before n && f.members n
  | some (.difference, before) => fun n => before n && !f.members n
  | some (.oneOnly, before) => fun n => before n != f.members n

/-- A class before a joint. -/
def join (f : ClassFrame) (j : Joint) : ClassFrame :=
  ⟨f.negated, some (j, f.joined), fun _ => false⟩

/-- The members of a class that has been read. -/
def closed (f : ClassFrame) : Nat → Bool := fun n => f.joined n != f.negated

/-- Whether a class may stand where the options are in force. -/
def isAdmitted (f : ClassFrame) (o : Options) : Bool :=
  if o.unicode then !o.caseless
  else (List.range' 0x80 0x80).all fun n => !f.closed n

end ClassFrame

/-- The classes with a name. -/
def namedClasses : List (String × (Nat → Bool)) :=
  [("alnum", fun n => isLetterCode n || isDigitCode n),
   ("alpha", isLetterCode),
   ("ascii", (· ≤ 0x7f)),
   ("blank", fun n => n = 9 || n = 0x20),
   ("cntrl", fun n => n ≤ 0x1f || n = 0x7f),
   ("digit", isDigitCode),
   ("graph", fun n => 0x21 ≤ n && n ≤ 0x7e),
   ("lower", isLowerCode),
   ("print", fun n => 0x20 ≤ n && n ≤ 0x7e),
   ("punct", fun n => 0x21 ≤ n && n ≤ 0x7e && !isLetterCode n && !isDigitCode n),
   ("space", isBlankCode),
   ("upper", isUpperCode),
   ("word", isWordCode),
   ("xdigit", fun n => isDigitCode n || (0x61 ≤ n && n ≤ 0x66) || (0x41 ≤ n && n ≤ 0x46))]

/-- A class by its name, which stands between colons and brackets; the first bracket is read. -/
def namedClass? : List Char → Option ((Nat → Bool) × List Char)
  | ':' :: s =>
    let (negated, s) :=
      match s with
      | '^' :: s => (true, s)
      | s => (false, s)
    match s.dropWhile (· ≠ ':') with
    | ':' :: ']' :: rest =>
      match namedClasses.lookup (String.ofList (s.takeWhile (· ≠ ':'))) with
      | some members => some (fun n => members n != negated, rest)
      | none => none
    | _ => none
  | _ => none

/-- Minus signs at the beginning of a class are members of it. -/
def leadingMinus (o : Options) : Nat → Bool → List Char → Bool × List Char
  | 0, found, s => (found, s)
  | n + 1, found, s =>
    match o.skip s with
    | '-' :: rest => leadingMinus o n true rest
    | s => (found, s)

/-- The beginning of a class, whose bracket has been read. -/
def openClass (o : Options) (s : List Char) : ClassFrame × List Char :=
  let (negated, s) :=
    match o.skip s with
    | '^' :: s => (true, s)
    | s => (false, s)
  let frame := ClassFrame.start negated
  match leadingMinus o s.length false s with
  | (true, s) => (frame.add (· = '-'.toNat), s)
  | (false, ']' :: s) => (frame.add (· = ']'.toNat), s)
  | (false, s) => (frame, s)

/-- A member of a class. -/
def classItem (o : Options) : List Char → Option (Atom × List Char)
  | [] => none
  | '\\' :: rest => escape o rest
  | c :: rest => some (.literal c.toNat false, rest)

/-- A class of a single member, if it may stand in a class. -/
def single? (o : Options) : Atom → Option (Nat → Bool)
  | .literal code numbered =>
    if o.unicode then some (· = code)
    else if 0x7f < code then none
    else if o.admits (.literal code numbered) then some (· = code)
    else none
  | .group members negated => if o.admits (.group members negated) then some members else none
  | .property | .wordEdge | .edge => none

/-- A range of members, if it may stand in a class. -/
def range? (o : Options) (first last : Atom) : Option (Nat → Bool) :=
  match first, last with
  | .literal a _, .literal b _ =>
    if b < a || (!o.unicode && 0x7f < b) then none else some fun n => a ≤ n && n ≤ b
  | _, _ => none

/-- A member or a range of members. -/
def classRange (o : Options) (s : List Char) : Option ((Nat → Bool) × List Char) :=
  match classItem o s with
  | none => none
  | some (first, s) =>
    match o.skip s with
    | [] => none
    | '-' :: rest =>
      let behind := (o.skip rest).head?
      if behind = some ']' || behind = some '-' then (single? o first).map (·, '-' :: rest)
      else
        match classItem o (o.skip rest) with
        | some (last, s) => (range? o first last).map (·, s)
        | none => none
    | s => (single? o first).map (·, s)

/-- The rest of a class, within the classes around it; what follows it is left.  `fuel` bounds the
parts. -/
def classBody (o : Options) (fuel : Nat) (f : ClassFrame) (around : List ClassFrame) (s : List Char) :
    Option (List Char) :=
  match fuel, o.skip s with
  | 0, _ | _, [] => none
  | fuel + 1, '[' :: rest =>
    match namedClass? rest with
    | some (members, rest) => classBody o fuel (f.add members) around rest
    | none =>
      let (inner, rest) := openClass o rest
      classBody o fuel inner (f :: around) rest
  | fuel + 1, ']' :: rest =>
    if !f.isAdmitted o then none
    else
      match around with
      | [] => some rest
      | outer :: around => classBody o fuel (outer.add f.closed) around rest
  | fuel + 1, '&' :: '&' :: rest => classBody o fuel (f.join .both) around rest
  | fuel + 1, '-' :: '-' :: rest => classBody o fuel (f.join .difference) around rest
  | fuel + 1, '~' :: '~' :: rest => classBody o fuel (f.join .oneOnly) around rest
  | fuel + 1, s =>
    match classRange o s with
    | some (members, rest) => classBody o fuel (f.add members) around rest
    | none => none

/-! ### Expressions -/

/-- An expression that is being read. -/
structure Scan where
  options : Options
  /-- The options in force around the open groups. -/
  around : List Options
  /-- The names of groups. -/
  names : List (List Char)
  /-- Whether there is something that can be repeated. -/
  repeatable : Bool

/-- The beginning of an expression. -/
def Scan.start : Scan := ⟨.standard, [], [], false⟩

/-- Whether a text can name a group. -/
def isGroupName : List Char → Bool
  | [] => false
  | c :: rest =>
    (c = '_' || (alphanumeric.contains c && !isDigitCode c.toNat)) &&
      rest.all fun c => c = '_' || c = '.' || c = '[' || c = ']' || alphanumeric.contains c

/-- A group with a name, whose opening angle bracket has been read. -/
def Scan.namedGroup? (st : Scan) (s : List Char) : Option (Scan × List Char) :=
  let name := s.takeWhile (· ≠ '>')
  match s.dropWhile (· ≠ '>') with
  | _ :: rest =>
    if isGroupName name && !st.names.contains name then
      some (⟨st.options, st.options :: st.around, name :: st.names, false⟩, rest)
    else none
  | [] => none

/-- The beginning of a group, or options for the rest of one; the parenthesis has been read. -/
def Scan.open? (st : Scan) (s : List Char) : Option (Scan × List Char) :=
  match st.options.skip s with
  | '?' :: 'P' :: '<' :: rest => st.namedGroup? rest
  | '?' :: '<' :: rest => st.namedGroup? rest
  | '?' :: rest =>
    match st.options.read [] rest with
    | some (options, true, true, rest) =>
      some ({ st with options := options, repeatable := false }, rest)
    | some (_, false, true, _) => none
    | some (options, _, false, rest) =>
      some ({ st with options := options, around := st.options :: st.around, repeatable := false },
        rest)
    | none => none
  | rest => some ({ st with around := st.options :: st.around, repeatable := false }, rest)

/-- Whether the rest of an expression can be read.  `fuel` bounds the parts. -/
def Scan.completes (fuel : Nat) (st : Scan) (s : List Char) : Bool :=
  match fuel, st.options.skip s with
  | _, [] => st.around.isEmpty
  | 0, _ => false
  | fuel + 1, '(' :: rest =>
    match st.open? rest with
    | some (st, rest) => st.completes fuel rest
    | none => false
  | fuel + 1, ')' :: rest =>
    match st.around with
    | options :: around =>
      { st with options := options, around := around, repeatable := true }.completes fuel rest
    | [] => false
  | fuel + 1, '|' :: rest => { st with repeatable := false }.completes fuel rest
  | fuel + 1, '[' :: rest =>
    let (frame, rest) := openClass st.options rest
    match classBody st.options fuel frame [] rest with
    | some rest => { st with repeatable := true }.completes fuel rest
    | none => false
  | fuel + 1, '\\' :: rest =>
    match escape st.options rest with
    | some (atom, rest) =>
      st.options.admits atom && { st with repeatable := true }.completes fuel rest
    | none => false
  | fuel + 1, c :: rest =>
    if c = '?' || c = '*' || c = '+' then st.repeatable && st.completes fuel rest
    else if c = '\x7b' then false
    else if c = '.' then st.options.unicode && { st with repeatable := true }.completes fuel rest
    else if c = '^' || c = '$' then { st with repeatable := true }.completes fuel rest
    else
      st.options.admits (.literal c.toNat false) && { st with repeatable := true }.completes fuel rest

/-- Whether a text is a regular expression. -/
def isExpression (s : List Char) : Bool := Scan.start.completes (s.length + 1) s

/-! ### Numbers -/

/-- Whether a text consists of digits, at least one. -/
def isDigits (s : List Char) : Bool := !s.isEmpty && s.all Char.isDigit

/-- Whether a text is an exponent, or nothing. -/
def isExponent : List Char → Bool
  | [] => true
  | e :: s =>
    (e = 'e' || e = 'E') &&
      isDigits (match s with
        | '+' :: s | '-' :: s => s
        | s => s)

/-- Whether a text is a number without its sign. -/
def isMagnitude (s : List Char) : Bool :=
  let word := (String.ofList s).toLower
  let whole := s.takeWhile Char.isDigit
  match s.dropWhile Char.isDigit with
  | '.' :: s =>
    !(whole.isEmpty && (s.takeWhile Char.isDigit).isEmpty) && isExponent (s.dropWhile Char.isDigit)
  | s => (!whole.isEmpty && isExponent s) || word = "inf" || word = "infinity" || word = "nan"

/-- Whether a text is a number. -/
def isNumber : List Char → Bool
  | '+' :: s | '-' :: s => isMagnitude s
  | s => isMagnitude s

/-- Whether a text says what a value must be. -/
def isReadable (s : List Char) : Bool := isNumber s || isExpression s

end Pattern
end DriverExtension.Log
