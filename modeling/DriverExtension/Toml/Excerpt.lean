import DriverExtension.Document.Decode
import DriverExtension.Text.Lines
import DriverExtension.Toml.Building

namespace DriverExtension.Toml

open Text

/-!
# Excerpts of a text

What is wrong with a text is told together with the line where it stands, and marked there.

* `Node.place?`    — where the part of a node stands that a trail leads to;
* `Excerpt.report` — the line, the marks and what they are about.
-/

/-- A stretch of a text and what is to be said about it. -/
structure Excerpt where
  text : String
  span : Span
  message : String
deriving DecidableEq, Repr

/-! ### Places -/

namespace Node

/-- The members of a table. -/
def members : Node → List (Name × Node)
  | .inline t | .table t => t.members
  | _ => []

/-- The items of an array. -/
def items : Node → List Node
  | .array items _ => items
  | .tables before last => (before ++ [last]).map .table
  | _ => []

/-- Where the part of a node stands that a trail leads to.  A part that stands nowhere itself is
found at the name that it has, or else at what it is a part of. -/
def place? (x : Node) : List Step → Option Span
  | [] => x.span?
  | .member name :: trail =>
    match x.members.find? (·.1.text = name) with
    | some (n, y) => y.place? trail <|> some n.span
    | none => x.span?
  | .item n :: trail => (x.items[n]?).bind (place? · trail) <|> x.span?
  | .alternative :: _ => (x.members.head?.map (·.1.span)) <|> x.span?
  | .payload :: trail => (x.members.head?).bind (fun m => place? m.2 trail) <|> x.span?

end Node

namespace Excerpt

/-- The stretch of a text that does not decode. -/
def unsuitable (text : String) (t : Table Node) (e : DecodeError) : Excerpt :=
  ⟨text, ((Node.table t).place? e.trail).getD ⟨text.length, 0⟩, e.message⟩

/-- The character of a text that is no TOML there. -/
def malformed (text : String) (f : Fault) : Excerpt := ⟨text, ⟨f.left, f.left - 1⟩, f.message⟩

/-! ### Reports -/

/-- The length of a text in bytes. -/
def byteLength (s : List Char) : Nat := (String.ofList s).utf8ByteSize

/-- The number of the last line, from zero, and the line. -/
def lastLine (s : List Char) : Nat × List Char :=
  let ls := lines s
  (ls.length - 1, ls.getLast?.getD [])

/-- The line and the column of a place, both from zero.  The end of a text is behind its last
character.  Before a character that is not ASCII the column counts bytes. -/
def position (before rest : List Char) : Nat × Nat :=
  match before, rest with
  | _, c :: _ =>
    let (n, s) := lastLine before
    (n, if c.toNat < 0x80 then s.length else byteLength s)
  | [], [] => (0, 0)
  | _, [] =>
    let (n, s) := lastLine before.dropLast
    (n, s.length + 1)

/-- A row of one character. -/
def row (n : Nat) (c : Char) : String := String.ofList (List.replicate n c)

/-- The line of a stretch of text with marks under it, and what they are about.  At least one mark
is made, and none behind the end of the line. -/
def report (e : Excerpt) : String :=
  let s := e.text.toList
  let (before, rest) := s.splitAt (s.length - e.span.left)
  let (line, column) := position before rest
  let content := ((lines s)[line]?).getD []
  let marked := byteLength (rest.take (e.span.left - e.span.after))
  let marks := max 1 (min marked (byteLength content - column))
  let number := toString (line + 1)
  let margin := row (number.length + 1) ' ' ++ "|"
  s!"TOML parse error at line {number}, column {column + 1}\n" ++ margin ++ "\n"
    ++ s!"{number} | " ++ String.ofList content ++ "\n"
    ++ margin ++ row (column + 1) ' ' ++ row marks '^' ++ "\n" ++ e.message ++ "\n"

end Excerpt
end DriverExtension.Toml
