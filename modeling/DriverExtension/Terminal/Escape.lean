import DriverExtension.Text.Utf8

namespace DriverExtension.Terminal

/-!
# Terminal sequences in text

Text for people may carry sequences that style it or command the terminal.  `visible` takes them
away, with all control characters but line breaks and blanks, for an output that is no terminal.

A sequence that is not finished takes what follows it along; an escape character always begins a new
one.
-/

/-- Where in a sequence a text is. -/
inductive Sequence where
  /-- In none. -/
  | outside
  | escape
  | escapeIntermediate
  | control
  | controlParameters
  | controlIntermediate
  | controlIgnored
  | device
  | deviceParameters
  | deviceIntermediate
  | deviceIgnored
  | deviceData
  /-- In a text that the terminal ignores. -/
  | ignoredText
  /-- In a command of the operating system, such as a window title. -/
  | systemCommand
deriving DecidableEq, Repr

namespace Sequence

/-- Whether a character lies between two numbers. -/
def within (first last : Nat) (c : Char) : Bool := first ≤ c.toNat && c.toNat ≤ last

/-- Whether a control character is shown where it stands. -/
def isSpace (c : Char) : Bool := c = '\t' || c = '\n' || c = '\x0c' || c = '\r'

/-- Whether the sequence is one of the kinds that control characters interrupt. -/
def isOpen : Sequence → Bool
  | .outside | .escape | .escapeIntermediate | .control | .controlParameters
  | .controlIntermediate | .controlIgnored => true
  | _ => false

/-- After an escape character. -/
def ofIntroducer (c : Char) : Sequence :=
  if within 0x20 0x2f c then .escapeIntermediate
  else if c = '[' then .control
  else if c = ']' then .systemCommand
  else if c = 'P' then .device
  else if c = 'X' || c = '^' || c = '_' then .ignoredText
  else .outside

/-- In a control sequence whose parameters may still come or not. -/
def inControl (parameters : Bool) (c : Char) : Sequence :=
  if within 0x20 0x2f c then .controlIntermediate
  else if within 0x30 0x3b c then .controlParameters
  else if within 0x3c 0x3f c then (if parameters then .controlIgnored else .controlParameters)
  else .outside

/-- At the beginning of a device sequence, whose parameters may still come or not. -/
def inDevice (parameters : Bool) (c : Char) : Sequence :=
  if within 0x20 0x2f c then .deviceIntermediate
  else if within 0x30 0x3b c then .deviceParameters
  else if within 0x3c 0x3f c then (if parameters then .deviceIgnored else .deviceParameters)
  else .deviceData

/-- The sequence after one more visible ASCII character. -/
def next (s : Sequence) (c : Char) : Sequence :=
  match s with
  | .outside => .outside
  | .escape => ofIntroducer c
  | .escapeIntermediate => if within 0x20 0x2f c then s else .outside
  | .control => inControl false c
  | .controlParameters => inControl true c
  | .controlIntermediate =>
    if within 0x20 0x2f c then s else if within 0x30 0x3f c then .controlIgnored else .outside
  | .controlIgnored => if within 0x20 0x3f c then s else .outside
  | .device => inDevice false c
  | .deviceParameters => inDevice true c
  | .deviceIntermediate =>
    if within 0x20 0x2f c then s else if within 0x30 0x3f c then .deviceIgnored else .deviceData
  | .deviceIgnored | .deviceData | .ignoredText | .systemCommand => s

/-- Whether a byte of the character ends a text for the terminal. -/
def endsText (s : Sequence) (c : Char) : Bool :=
  (s = .deviceIgnored || s = .deviceData || s = .ignoredText) &&
    (Text.encodeUtf8 c.toString).contains 0x9c

/-- The sequence after one more character, and whether the character is shown. -/
def step (s : Sequence) (c : Char) : Sequence × Bool :=
  if c = '\x1b' then (.escape, false)
  else if c = '\x18' || c = '\x1a' then (.outside, false)
  else if isSpace c then (if s.isOpen then (.outside, true) else (s, false))
  else if c = '\x07' then (if s = .systemCommand then .outside else s, false)
  else if c.toNat < 0x20 || c.toNat = 0x7f then (s, false)
  else if c.toNat < 0x7f then (s.next c, s = .outside)
  else if s = .outside then (s, true)
  else (if s.endsText c then .outside else s, false)

/-- The characters of a text that are shown, given the sequence before it. -/
def shown (s : Sequence) : List Char → List Char
  | [] => []
  | c :: rest =>
    let (s, isShown) := s.step c
    if isShown then c :: shown s rest else shown s rest

end Sequence

/-- A text without terminal sequences. -/
def visible (text : String) : String := String.ofList (Sequence.outside.shown text.toList)

/-- A text in a style of its own. -/
def emphasized (text : String) : String := "\x1b[1m" ++ text ++ "\x1b[0m"

end DriverExtension.Terminal
