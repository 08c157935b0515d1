import DriverExtension.Number.Numeral
import DriverExtension.Terminal.Event
import DriverExtension.Text.Utf8

namespace DriverExtension.Terminal

open Number Text

/-!
# What a terminal sends

A terminal sends bytes.  A key is a character, a control character, or a sequence that begins with
the escape character; the same character on its own is the escape key.

* `Input.read` — what the bytes since the last event amount to;
* `Input.feed` — the events of a run of bytes, and the bytes of an event that is not complete.
-/

/-- What the bytes since the last event amount to. -/
inductive Reading where
  /-- More bytes are needed. -/
  | incomplete
  /-- The bytes are no event; they are dropped. -/
  | unreadable
  | event (e : TerminalEvent)
deriving DecidableEq, Repr

namespace Reading

/-- A key that went down. -/
def pressed (code : KeyCode) (modifiers : Modifiers) : Reading :=
  .event (.key ⟨code, modifiers, .press⟩)

/-- A key that went down on its own. -/
def plain (code : KeyCode) : Reading := pressed code .none

/-- A key, if there is one. -/
def ofKey? (code : Option KeyCode) (modifiers : Modifiers) (kind : KeyKind) : Reading :=
  match code with
  | some code => .event (.key ⟨code, modifiers, kind⟩)
  | none => .unreadable

/-- The same with the alt key held. -/
def withAlt : Reading → Reading
  | .event (.key k) => .event (.key { k with modifiers := { k.modifiers with alt := true } })
  | r => r

end Reading

namespace Input

open Reading

/-! ### Parameters of sequences -/

/-- The texts between separators. -/
def fields (separator : Char) : List Char → List (List Char)
  | [] => [[]]
  | c :: rest =>
    if c = separator then [] :: fields separator rest
    else
      match fields separator rest with
      | [] => [[c]]
      | s :: more => (c :: s) :: more

/-- A parameter of one byte. -/
def byte? (s : List Char) : Option Nat := numeralBelow? 256 s

/-- The modifiers of a number, which is one more than the sum of their weights. -/
def modifiers (n : Nat) : Modifiers :=
  let held (weight : Nat) : Bool := (n - 1) / weight % 2 = 1
  ⟨held 1, held 4, held 2, held 8, held 16, held 32⟩

/-- What a key does, by number. -/
def keyKind : Nat → KeyKind
  | 2 => .repeated
  | 3 => .release
  | _ => .press

/-- The modifiers of a parameter, and what the key does. -/
def modifiersAndKind? (parameter : Option (List Char)) : Option (Modifiers × KeyKind) := do
  let parts := fields ':' (← parameter)
  let held ← parts.head?.bind byte?
  return (modifiers held, keyKind ((parts[1]?.bind byte?).getD 1))

/-- The same where there may be no such parameter. -/
def modifiersAndKind (parameter : Option (List Char)) : Modifiers × KeyKind :=
  (modifiersAndKind? parameter).getD (.none, .press)

/-! ### Sequences -/

/-- The key of a letter at the end of a sequence. -/
def letterKey? : Char → Option KeyCode
  | 'A' => some .up
  | 'B' => some .down
  | 'C' => some .right
  | 'D' => some .left
  | 'F' => some .endKey
  | 'H' => some .home
  | 'P' => some (.function 1)
  | 'Q' => some (.function 2)
  | 'R' => some (.function 3)
  | 'S' => some (.function 4)
  | _ => none

/-- The key of a number before a tilde. -/
def numberKey? (n : Nat) : Option KeyCode :=
  match n with
  | 1 | 7 => some .home
  | 2 => some .insert
  | 3 => some .delete
  | 4 | 8 => some .endKey
  | 5 => some .pageUp
  | 6 => some .pageDown
  | _ =>
    if 11 ≤ n && n ≤ 15 then some (.function (n - 10))
    else if 17 ≤ n && n ≤ 21 then some (.function (n - 11))
    else if 23 ≤ n && n ≤ 26 then some (.function (n - 12))
    else if 28 ≤ n && n ≤ 29 then some (.function (n - 13))
    else if 31 ≤ n && n ≤ 34 then some (.function (n - 14))
    else none

/-- A sequence that ends in a tilde. -/
def tildeSequence (parameters : List (List Char)) : Reading :=
  match parameters.head?.bind byte? with
  | none => .unreadable
  | some n =>
    let (held, kind) := modifiersAndKind parameters[1]?
    ofKey? (numberKey? n) held kind

/-- A sequence that ends in a letter; `before` is the character before that letter. -/
def letterSequence (parameters : List (List Char)) (before letter : Char) : Reading :=
  match modifiersAndKind? parameters[1]? with
  | some (held, kind) => ofKey? (letterKey? letter) held kind
  | none =>
    if before.isDigit then
      ofKey? (letterKey? letter) (modifiers (before.toNat - '0'.toNat)) .press
    else .unreadable

/-- The key of the keypad, or another one outside the alphabet, by its number. -/
def numberedKey? (n : Nat) : Option KeyCode :=
  if 57399 ≤ n && n ≤ 57408 then some (.char (Char.ofNat (n - 57399 + '0'.toNat)))
  else
    [(57409, .char '.'), (57410, .char '/'), (57411, .char '*'), (57412, .char '-'),
     (57413, .char '+'), (57414, .enter), (57415, .char '='), (57416, .char ','), (57417, .left),
     (57418, .right), (57419, .up), (57420, .down), (57421, .pageUp), (57422, .pageDown),
     (57423, .home), (57424, .endKey), (57425, .insert), (57426, .delete), (57427, .keypadBegin),
     (57358, .capsLock), (57359, .scrollLock), (57360, .numLock), (57361, .printScreen),
     (57362, .pause), (57363, .menu)].lookup n
  <|> (if 57376 ≤ n && n ≤ 57398 then some (.function (n - 57363)) else none)
  <|> (if 57428 ≤ n && n ≤ 57454 then some .special else none)

/-- The character of a number. -/
def character? (n : Nat) : Option Char := if h : n.isValidChar then some (.ofNatAux n h) else none

/-- The key of a character that is given by its number. -/
def characterKey (held : Modifiers) (c : Char) : KeyCode :=
  match c with
  | '\x1b' => .escape
  | '\r' => .enter
  | '\t' => if held.shift then .backTab else .tab
  | '\x7f' => .backspace
  | _ => .char c

/-- A sequence that ends in `u`: a key by the number of its character, maybe with the character that
it has when shift is held. -/
def characterSequence (parameters : List (List Char)) : Reading :=
  let codes := fields ':' (parameters.head?.getD [])
  let (held, kind) := modifiersAndKind parameters[1]?
  match codes.head?.bind (numeralBelow? 0x100000000) with
  | none => .unreadable
  | some n =>
    match numberedKey? n <|> (character? n).map (characterKey held) with
    | none => .unreadable
    | some code =>
      match (codes[1]?.bind (numeralBelow? 0x100000000)).bind character?, held.shift with
      | some shifted, true =>
        .event (.key ⟨.char shifted, { held with shift := false }, kind⟩)
      | _, _ => .event (.key ⟨code, held, kind⟩)

/-- A byte as a character. -/
def asChar (b : UInt8) : Char := Char.ofNat b.toNat

/-- The bytes that announce a pasted text. -/
def pasteStart : List Char := ['2', '0', '0', '~']

/-- The bytes that end a pasted text. -/
def pasteEnd : List Char := ['\x1b', '[', '2', '0', '1', '~']

/-- A sequence that begins with a number. -/
def numberedSequence (body : List UInt8) : Reading :=
  let chars := body.map asChar
  let last := chars.getLast?.getD '0'
  if chars.length ≤ 1 || last < '@' || '~' < last then .incomplete
  else if pasteStart.isPrefixOf chars then
    if pasteEnd.isSuffixOf chars then .event .other else .incomplete
  else
    match last with
    | 'M' | 'R' => .event .other
    | _ =>
      match decodeUtf8? body.dropLast with
      | none => .unreadable
      | some text =>
        let parameters := fields ';' text.toList
        match last with
        | '~' => tildeSequence parameters
        | 'u' => characterSequence parameters
        | _ => letterSequence parameters (chars.dropLast.getLast?.getD ' ') last

/-- What follows the escape character and an opening bracket. -/
def sequence (body : List UInt8) : Reading :=
  match body.map asChar with
  | [] => .incomplete
  | ['['] => .incomplete
  | '[' :: c :: _ =>
    if 'A' ≤ c && c ≤ 'E' then plain (.function (c.toNat - 'A'.toNat + 1)) else .unreadable
  | c :: rest =>
    match c with
    | 'A' => plain .up
    | 'B' => plain .down
    | 'C' => plain .right
    | 'D' => plain .left
    | 'F' => plain .endKey
    | 'H' => plain .home
    | 'Z' => pressed .backTab { Modifiers.none with shift := true }
    | 'P' => plain (.function 1)
    | 'Q' => plain (.function 2)
    | 'S' => plain (.function 4)
    | 'I' | 'O' => .event .other
    | 'M' => if rest.length < 3 then .incomplete else .event .other
    | '<' =>
      match rest.getLast? with
      | some 'm' | some 'M' => .event .other
      | _ => .incomplete
    | '?' =>
      match rest.getLast? with
      | some 'c' => .event .other
      | some 'u' => if rest.length < 2 then .incomplete else .event .other
      | _ => .incomplete
    | _ => if c.isDigit then numberedSequence body else .unreadable

/-! ### Characters -/

/-- The number of bytes of a character that begins with a byte; none begins with one that has no
such number. -/
def width? (b : UInt8) : Option Nat :=
  if b < 0x80 then some 1
  else if b < 0xc0 then none
  else if b < 0xe0 then some 2
  else if b < 0xf0 then some 3
  else if b < 0xf8 then some 4
  else none

/-- A character, which may need several bytes. -/
def character (bytes : List UInt8) : Reading :=
  match (decodeUtf8? bytes).map String.toList, bytes with
  | some (c :: _), _ => pressed (.char c) { Modifiers.none with shift := c.isUpper }
  | some [], _ | none, [] => .incomplete
  | none, b :: rest =>
    match width? b with
    | none => .unreadable
    | some n =>
      if rest.all isContinuation && bytes.length < n then .incomplete else .unreadable

/-- A character held with control. -/
def controlled (c : Char) : Reading := pressed (.char c) { Modifiers.none with control := true }

/-- A single byte or the bytes of a character. -/
def keystroke (b : UInt8) (rest : List UInt8) : Reading :=
  if b = 0x0d then plain .enter
  else if b = 0x09 then plain .tab
  else if b = 0x7f then plain .backspace
  else if b = 0x00 then controlled ' '
  else if 0x01 ≤ b && b ≤ 0x1a then controlled (Char.ofNat (b.toNat - 0x01 + 'a'.toNat))
  else if 0x1c ≤ b && b ≤ 0x1f then controlled (Char.ofNat (b.toNat - 0x1c + '4'.toNat))
  else character (b :: rest)

/-- What follows the escape character and an O. -/
def shifted (body : List UInt8) : Reading :=
  match body.map asChar with
  | [] => .incomplete
  | c :: _ => ofKey? (letterKey? c) .none .press

/-- What the bytes since the last event amount to; `more` tells whether further bytes are there. -/
def read (more : Bool) : List UInt8 → Reading
  | [] => .incomplete
  | b :: rest =>
    if b ≠ 0x1b then keystroke b rest
    else
      match rest with
      | [] => if more then .incomplete else plain .escape
      | b' :: body =>
        if b' = 0x4f then shifted body
        else if b' = 0x5b then sequence body
        else if b' = 0x1b then plain .escape
        else (read more (b' :: body)).withAlt

/-- The events of bytes that come after those in a buffer, and the buffer afterwards. -/
def feed (buffer : List UInt8) : List UInt8 → List TerminalEvent × List UInt8
  | [] => ([], buffer)
  | b :: rest =>
    let buffer := buffer ++ [b]
    match read (!rest.isEmpty) buffer with
    | .incomplete => feed buffer rest
    | .unreadable => feed [] rest
    | .event e =>
      let (events, left) := feed [] rest
      (e :: events, left)

end Input
end DriverExtension.Terminal
