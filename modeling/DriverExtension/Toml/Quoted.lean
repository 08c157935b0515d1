import DriverExtension.Toml.Text

namespace DriverExtension.Toml

/-!
# Strings as TOML writes them

`quote` chooses the plainest of five forms: between double quotes, between apostrophes, long between
double quotes, long between apostrophes, and last with escapes.
-/

/-- Whether a character is a control character other than the tab and the line feed: no string can
hold it as it is. -/
def isControl (c : Char) : Bool := (c.toNat < 0x20 && c ≠ '\t' && c ≠ '\n') || c.toNat = 0x7f

/-- The longest row of a character in a text, of which `current` precede. -/
def longestRow (x : Char) (current : Nat) : List Char → Nat
  | [] => current
  | c :: rest =>
    if c = x then longestRow x (current + 1) rest else max current (longestRow x 0 rest)

/-- Four hexadecimal digits in capitals. -/
def hexQuad (n : Nat) : List Char :=
  let digits := (Nat.toDigits 16 n).map Char.toUpper
  List.replicate (4 - digits.length) '0' ++ digits

/-- A character that is not a quote as it stands between quotes. -/
def escapeChar (long : Bool) (c : Char) : List Char :=
  match c with
  | '\x08' => ['\\', 'b']
  | '\t' => ['\\', 't']
  | '\n' => if long then ['\n'] else ['\\', 'n']
  | '\x0c' => ['\\', 'f']
  | '\r' => ['\\', 'r']
  | '\\' => ['\\', '\\']
  | _ => if isControl c then '\\' :: 'u' :: hexQuad c.toNat else [c]

/-- A text with escapes.  A quote is escaped unless `room` of them may still stand in a row; after
an escape the count begins again. -/
def escapeAll (long : Bool) (room : Nat) : List Char → List Char
  | [] => []
  | c :: rest =>
    let full := if long then 2 else 0
    if c = '"' then
      match room with
      | 0 => '\\' :: '"' :: escapeAll long full rest
      | room + 1 => '"' :: escapeAll long room rest
    else escapeChar long c ++ escapeAll long full rest

/-- A text between long quotes; one with line breaks begins on a line of its own. -/
def enclose (quote : Char) (broken : Bool) (s : List Char) : List Char :=
  let quotes := [quote, quote, quote]
  quotes ++ (if broken then ['\n'] else []) ++ s ++ quotes

/-- A text between double quotes. -/
def basicForm (s : List Char) : List Char := '"' :: escapeAll false 0 s ++ ['"']

/-- A text between long double quotes. -/
def longBasicForm (broken : Bool) (s : List Char) : List Char :=
  enclose '"' broken (escapeAll true 2 s)

/-- A text as a TOML string.  A tab asks for no form, but between double quotes it is escaped. -/
def quoteChars (s : List Char) : List Char :=
  let broken := s.contains '\n'
  let control := s.any isControl
  let backslash := s.contains '\\'
  if !control && !backslash && !s.contains '"' && !broken then basicForm s
  else if !control && !s.contains '\x27' && !broken then '\x27' :: s ++ ['\x27']
  else if !control && !backslash && longestRow '"' 0 s ≤ 2 then longBasicForm broken s
  else if !control && longestRow '\x27' 0 s ≤ 2 then enclose '\x27' broken s
  else if broken then longBasicForm broken s
  else basicForm s

/-- A name as it stands in a key: bare where it can be. -/
def writtenName (s : List Char) : List Char :=
  let control := s.any isControl || s.contains '\n'
  if !s.isEmpty && s.all isBare then s
  else if !control && !s.contains '\\' && !s.contains '"' then basicForm s
  else if !control && !s.contains '\x27' then '\x27' :: s ++ ['\x27']
  else basicForm s

/-- A text as a TOML string. -/
def quote (s : String) : String := String.ofList (quoteChars s.toList)

end DriverExtension.Toml
