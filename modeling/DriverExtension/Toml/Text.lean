import DriverExtension.Toml.Fault

namespace DriverExtension.Toml

/-!
# Blanks, comments and strings of TOML

What separates the parts of a TOML text, and the four forms of strings.
-/

/-- Spaces and tabs. -/
def isBlank (c : Char) : Bool := c = ' ' || c = '\t'

/-- The text without blanks at its beginning. -/
def skipBlanks (s : List Char) : List Char := s.dropWhile isBlank

/-- What may stand in comments and in literal strings: no control character but the tab. -/
def isVisible (c : Char) : Bool := c = '\t' || (0x20 ≤ c.toNat && c.toNat ≠ 0x7f)

/-- The text after blanks and a comment. -/
def skipComment (s : List Char) : List Char :=
  match skipBlanks s with
  | '#' :: rest => rest.dropWhile isVisible
  | rest => rest

/-- The text after the rest of a line, which holds only blanks and a comment. -/
def skipLineEnd (s : List Char) : Except Fault (List Char) :=
  match skipComment s with
  | [] => .ok []
  | '\n' :: rest => .ok rest
  | '\r' :: '\n' :: rest => .ok rest
  | rest => .error (.here rest)

/-- The text after blanks, line breaks and comments; `inComment` tells whether a comment is being
skipped. -/
def skipTrivia (inComment : Bool) : List Char → Except Fault (List Char)
  | [] => if inComment then .error (.here []) else .ok []
  | '\n' :: rest => skipTrivia false rest
  | '\r' :: '\n' :: rest => skipTrivia false rest
  | '\r' :: rest => .error (.here rest)
  | c :: rest =>
    if inComment then
      (if isVisible c then skipTrivia true rest else .error (.here (c :: rest)))
    else if isBlank c then skipTrivia false rest
    else if c = '#' then skipTrivia true rest
    else .ok (c :: rest)

/-! ### Escapes -/

/-- The value of a hexadecimal digit. -/
def hexValue? (c : Char) : Option Nat :=
  if c.isDigit then some (c.toNat - '0'.toNat)
  else if 'a' ≤ c && c ≤ 'f' then some (c.toNat - 'a'.toNat + 10)
  else if 'A' ≤ c && c ≤ 'F' then some (c.toNat - 'A'.toNat + 10)
  else none

/-- The character whose number is given in hexadecimal digits. -/
def codePoint? (digits : List Char) : Option Char := do
  let values ← digits.mapM hexValue?
  let n := values.foldl (fun n v => n * 16 + v) 0
  if n < 0xd800 || (0xdfff < n && n < 0x110000) then some (Char.ofNat n) else none

/-- The fault of a text that should begin with the number of a character. -/
def codePointFault (count : Nat) (s : List Char) : Fault :=
  let digits := s.take count
  let f : Fault :=
    if digits.length = count && digits.all fun c => (hexValue? c).isSome then .outOfRange s
    else .here s
  (f.labelled s!"unicode {count}-digit hex code").hard

/-- The letters that may follow a backslash. -/
def escapeLetters : List String := ["`b`", "`f`", "`n`", "`r`", "`t`", "`u`", "`U`", "`\\`", "`\"`"]

/-- The fault of a backslash before a character that it cannot stand before.  It is behind an ASCII
character and at any other. -/
def escapeFault (c : Char) (rest : List Char) : Fault :=
  let place := if c.toNat < 0x80 then rest else c :: rest
  (((Fault.here place).labelled "escape sequence").expecting escapeLetters).hard

/-- The character that a letter after a backslash stands for. -/
def escaped? (c : Char) : Option Char :=
  match c with
  | '"' => some '"'
  | '\\' => some '\\'
  | 'b' => some '\x08'
  | 't' => some '\t'
  | 'n' => some '\n'
  | 'f' => some '\x0c'
  | 'r' => some '\r'
  | _ => none

/-- The characters of a bare name. -/
def isBare (c : Char) : Bool := c.isAlphanum || c = '_' || c = '-'

/-! ### Strings on one line -/

/-- Puts a character in front of what is read. -/
def prepend (c : Char) (r : Read (List Char)) : Read (List Char) := become (c :: ·) r

/-- A string that does not go on and is not closed. -/
def unclosed (name : String) (s : List Char) : Read (List Char) :=
  .error (((Fault.here s).labelled name).hard)

/-- The string whose opening quote has been read. -/
def basic : List Char → Read (List Char)
  | [] => unclosed "basic string" []
  | '"' :: rest => .ok ([], rest)
  | ['\\'] => unclosed "basic string" ['\\']
  | '\\' :: 'u' :: a :: b :: c :: d :: rest =>
    match codePoint? [a, b, c, d] with
    | some x => prepend x (basic rest)
    | none => .error (codePointFault 4 (a :: b :: c :: d :: rest))
  | '\\' :: 'u' :: rest => .error (codePointFault 4 rest)
  | '\\' :: 'U' :: a :: b :: c :: d :: e :: f :: g :: h :: rest =>
    match codePoint? [a, b, c, d, e, f, g, h] with
    | some x => prepend x (basic rest)
    | none => .error (codePointFault 8 (a :: b :: c :: d :: e :: f :: g :: h :: rest))
  | '\\' :: 'U' :: rest => .error (codePointFault 8 rest)
  | '\\' :: c :: rest =>
    match escaped? c with
    | some x => prepend x (basic rest)
    | none => .error (escapeFault c rest)
  | c :: rest =>
    if isVisible c then prepend c (basic rest) else unclosed "basic string" (c :: rest)

/-- The literal string whose opening quote has been read. -/
def literal : List Char → Read (List Char)
  | [] => unclosed "literal string" []
  | '\x27' :: rest => .ok ([], rest)
  | c :: rest =>
    if isVisible c then prepend c (literal rest) else unclosed "literal string" (c :: rest)

/-! ### Long strings -/

/-- The end of a long string after its closing quotes; up to two more quotes belong to it. -/
def closeLong (quote : Char) (s : List Char) : Read (List Char) :=
  match s with
  | a :: b :: rest =>
    if a = quote then
      (if b = quote then .ok ([a, b], rest) else .ok ([a], b :: rest))
    else .ok ([], s)
  | [a] => if a = quote then .ok ([a], []) else .ok ([], s)
  | [] => .ok ([], [])

/-- Whether only blanks stand before the next line break. -/
def endsLine (s : List Char) : Bool :=
  match skipBlanks s with
  | '\n' :: _ => true
  | '\r' :: '\n' :: _ => true
  | _ => false

/-- Whether a long string goes on after one or two quotes. -/
def goesOn (quote : Char) (s : List Char) : Bool :=
  match s.dropWhile (· = quote) with
  | [] => false
  | ['\\'] => quote = '\x27'
  | '\n' :: _ => true
  | '\r' :: '\n' :: _ => true
  | c :: _ => isVisible c

/-- The long string whose opening quotes have been read.  After a backslash at the end of a line
blanks and line breaks are skipped, which `skipping` tells. -/
def longBasic (skipping : Bool) : List Char → Read (List Char)
  | [] => unclosed "multiline basic string" []
  | '"' :: '"' :: '"' :: rest => closeLong '"' rest
  | '"' :: rest =>
    if goesOn '"' rest then prepend '"' (longBasic false rest)
    else unclosed "multiline basic string" ('"' :: rest)
  | '\r' :: '\n' :: rest =>
    if skipping then longBasic true rest else prepend '\n' (longBasic false rest)
  | '\n' :: rest => if skipping then longBasic true rest else prepend '\n' (longBasic false rest)
  | ['\\'] => unclosed "multiline basic string" ['\\']
  | '\\' :: 'u' :: a :: b :: c :: d :: rest =>
    match codePoint? [a, b, c, d] with
    | some x => prepend x (longBasic false rest)
    | none => .error (codePointFault 4 (a :: b :: c :: d :: rest))
  | '\\' :: 'u' :: rest => .error (codePointFault 4 rest)
  | '\\' :: 'U' :: a :: b :: c :: d :: e :: f :: g :: h :: rest =>
    match codePoint? [a, b, c, d, e, f, g, h] with
    | some x => prepend x (longBasic false rest)
    | none => .error (codePointFault 8 (a :: b :: c :: d :: e :: f :: g :: h :: rest))
  | '\\' :: 'U' :: rest => .error (codePointFault 8 rest)
  | '\\' :: c :: rest =>
    if endsLine (c :: rest) then longBasic true rest
    else
      match escaped? c with
      | some x => prepend x (longBasic false rest)
      | none => .error (escapeFault c rest)
  | c :: rest =>
    if skipping && isBlank c then longBasic true rest
    else if isVisible c then prepend c (longBasic false rest)
    else unclosed "multiline basic string" (c :: rest)

/-- The long literal string whose opening quotes have been read. -/
def longLiteral : List Char → Read (List Char)
  | [] => unclosed "multiline literal string" []
  | '\x27' :: '\x27' :: '\x27' :: rest => closeLong '\x27' rest
  | '\x27' :: rest =>
    if goesOn '\x27' rest then prepend '\x27' (longLiteral rest)
    else unclosed "multiline literal string" ('\x27' :: rest)
  | '\r' :: '\n' :: rest => prepend '\n' (longLiteral rest)
  | c :: rest =>
    if isVisible c || c = '\n' then prepend c (longLiteral rest)
    else unclosed "multiline literal string" (c :: rest)

/-- A text without a line break at its very beginning. -/
def dropLineBreak : List Char → List Char
  | '\n' :: rest => rest
  | '\r' :: '\n' :: rest => rest
  | s => s

/-- A string of any form, from its opening quotes on. -/
def anyString : List Char → Read (List Char)
  | '"' :: '"' :: '"' :: rest => longBasic false (dropLineBreak rest)
  | '"' :: rest => basic rest
  | '\x27' :: '\x27' :: '\x27' :: rest => longLiteral (dropLineBreak rest)
  | '\x27' :: rest => literal rest
  | s => nothing s

end DriverExtension.Toml
