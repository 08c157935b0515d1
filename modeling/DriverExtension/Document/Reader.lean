import DriverExtension.Document.Basic
import DriverExtension.Number.Scanned

namespace DriverExtension

open Number

/-!
# Reading JSON

`Document.ofJson` reads a JSON text.  Reading never fails: where the text breaks off, the document
holds `broken` and nothing of the text after that place is looked at.

A reader returns a document and the text after it, or no text once something is broken.
-/

namespace Document

/-- The characters between tokens. -/
def isBlank (c : Char) : Bool := c = ' ' || c = '\n' || c = '\t' || c = '\r'

/-- The text without blanks at its beginning. -/
def skipBlanks (s : List Char) : List Char := s.dropWhile isBlank

/-- A document and the text after it. -/
abbrev Reading := Document × Option (List Char)

/-- The value of a hexadecimal digit. -/
def hexValue? (c : Char) : Option Nat :=
  if c.isDigit then some (c.toNat - '0'.toNat)
  else if 'a' ≤ c && c ≤ 'f' then some (c.toNat - 'a'.toNat + 10)
  else if 'A' ≤ c && c ≤ 'F' then some (c.toNat - 'A'.toNat + 10)
  else none

/-- The number of four hexadecimal digits, and the text after them. -/
def hexQuad? (s : List Char) : Option (Nat × List Char) :=
  match s with
  | a :: b :: c :: d :: rest => do
    let a ← hexValue? a
    let b ← hexValue? b
    let c ← hexValue? c
    let d ← hexValue? d
    return (((a * 16 + b) * 16 + c) * 16 + d, rest)
  | _ => none

/-- A piece of a string: a character or a UTF-16 unit written by its number. -/
inductive Piece where
  | char (c : Char)
  | unit (n : Nat)

/-- The pieces of a string up to its closing quote, which is not among them, and the text after
that; `none` if the string does not end, holds a control character or a bad escape. -/
def scanString : List Char → Option (List Piece × List Char)
  | [] => none
  | '"' :: rest => some ([], rest)
  | '\\' :: '"' :: rest => continued '"' (scanString rest)
  | '\\' :: '\\' :: rest => continued '\\' (scanString rest)
  | '\\' :: '/' :: rest => continued '/' (scanString rest)
  | '\\' :: 'b' :: rest => continued '\x08' (scanString rest)
  | '\\' :: 'f' :: rest => continued '\x0c' (scanString rest)
  | '\\' :: 'n' :: rest => continued '\n' (scanString rest)
  | '\\' :: 'r' :: rest => continued '\r' (scanString rest)
  | '\\' :: 't' :: rest => continued '\t' (scanString rest)
  | '\\' :: 'u' :: a :: b :: c :: d :: rest =>
    match hexQuad? [a, b, c, d] with
    | some (n, _) => (scanString rest).map fun (ps, r) => (.unit n :: ps, r)
    | none => none
  | '\\' :: _ => none
  | c :: rest => if c.toNat < 0x20 then none else continued c (scanString rest)
where
  /-- Puts a character in front. -/
  continued (c : Char) (x : Option (List Piece × List Char)) : Option (List Piece × List Char) :=
    x.map fun (ps, r) => (.char c :: ps, r)

/-- The text of pieces; `none` if half of a surrogate pair stands alone. -/
def assemble : List Piece → Option (List Char)
  | [] => some []
  | .char c :: rest => (assemble rest).map (c :: ·)
  | [.unit n] => if 0xd800 ≤ n && n ≤ 0xdfff then none else some [Char.ofNat n]
  | .unit n :: .char c :: rest =>
    if 0xd800 ≤ n && n ≤ 0xdfff then none else (assemble rest).map (Char.ofNat n :: c :: ·)
  | .unit n :: .unit m :: rest =>
    if 0xd800 ≤ n && n ≤ 0xdbff then
      if 0xdc00 ≤ m && m ≤ 0xdfff then
        (assemble rest).map (Char.ofNat (0x10000 + (n - 0xd800) * 0x400 + (m - 0xdc00)) :: ·)
      else none
    else if 0xdc00 ≤ n && n ≤ 0xdfff then none
    else (assemble (.unit m :: rest)).map (Char.ofNat n :: ·)

/-- The string whose opening quote has been read. -/
def readString (s : List Char) : Reading :=
  match scanString s with
  | none => (.broken, none)
  | some (pieces, rest) =>
    match assemble pieces with
    | none => (.unreadable, some rest)
    | some text => (.string (String.ofList text), some rest)

/-- A word of the language, or broken text. -/
def readWord (word : List Char) (d : Document) (s : List Char) : Reading :=
  if word.isPrefixOf s then (d, some (s.drop word.length)) else (.broken, none)

/-- The number at the beginning of the text. -/
def readNumber (s : List Char) : Reading :=
  match scanNumber s with
  | none => (.broken, none)
  | some (.int n, rest) => (.int n, some rest)
  | some (.float x, rest) => (.float x, some rest)
  | some (.outOfRange, rest) => (.unreadable, some rest)

mutual

/-- The value at the beginning of the text; `fuel` bounds the steps. -/
def readValue (fuel : Nat) (s : List Char) : Reading :=
  match fuel with
  | 0 => (.broken, none)
  | fuel + 1 =>
    match skipBlanks s with
    | [] => (.broken, none)
    | '"' :: rest => readString rest
    | '[' :: rest =>
      match skipBlanks rest with
      | ']' :: rest => (.array [], some rest)
      | rest =>
        let (items, rest) := readItems fuel rest
        (.array items, rest)
    | '\x7b' :: rest =>
      match skipBlanks rest with
      | '\x7d' :: rest => (.object [], some rest)
      | rest =>
        let (members, rest) := readMembers fuel rest
        (.object members, rest)
    | s@('n' :: _) => readWord ['n', 'u', 'l', 'l'] .null s
    | s@('t' :: _) => readWord ['t', 'r', 'u', 'e'] (.bool true) s
    | s@('f' :: _) => readWord ['f', 'a', 'l', 's', 'e'] (.bool false) s
    | s@(c :: _) => if c = '-' || c.isDigit then readNumber s else (.broken, none)

/-- The items of an array from the next one on, up to the closing bracket. -/
def readItems (fuel : Nat) (s : List Char) : List Document × Option (List Char) :=
  match fuel with
  | 0 => ([.broken], none)
  | fuel + 1 =>
    match readValue fuel s with
    | (d, none) => ([d], none)
    | (d, some rest) =>
      match skipBlanks rest with
      | ']' :: rest => ([d], some rest)
      | ',' :: rest =>
        let (items, rest) := readItems fuel rest
        (d :: items, rest)
      | _ => ([d, .broken], none)

/-- The members of an object from the next one on, up to the closing brace. -/
def readMembers (fuel : Nat) (s : List Char) : List (String × Document) × Option (List Char) :=
  match fuel with
  | 0 => ([("", .badKey .broken .broken)], none)
  | fuel + 1 =>
    match readValue fuel s with
    | (.string name, some rest) => readMember fuel name id rest
    | (.unreadable, some rest) =>
      match skipBlanks s with
      | '"' :: _ => readMember fuel "" (.badKey .unreadable) rest
      | _ => ([("", .badKey .unreadable .broken)], none)
    | (key, _) => ([("", .badKey key .broken)], none)

/-- A member whose name has been read, and the members after it; `wrap` is applied to its value. -/
def readMember (fuel : Nat) (name : String) (wrap : Document → Document) (s : List Char) :
    List (String × Document) × Option (List Char) :=
  match fuel with
  | 0 => ([(name, wrap .broken)], none)
  | fuel + 1 =>
    match skipBlanks s with
    | ':' :: rest =>
      match readValue fuel rest with
      | (d, none) => ([(name, wrap d)], none)
      | (d, some rest) =>
        match skipBlanks rest with
        | '\x7d' :: rest => ([(name, wrap d)], some rest)
        | ',' :: rest =>
          let (members, rest) := readMembers fuel rest
          ((name, wrap d) :: members, rest)
        | _ => ([(name, wrap d), ("", .badKey .broken .broken)], none)
    | _ => ([(name, wrap .broken)], none)

end

/-- The document of a JSON text, and whether nothing but blanks follows it. -/
def ofJson (text : String) : Document × Bool :=
  let s := text.toList
  match readValue (3 * s.length + 3) s with
  | (d, none) => (d, false)
  | (d, some rest) => (d, (skipBlanks rest).isEmpty)

end Document
end DriverExtension
