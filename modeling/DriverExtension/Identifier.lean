import DriverExtension.Document.Decode

namespace DriverExtension

open Text

/-!
# Bundle identifiers

A driver extension is named by a dotted reverse-DNS name over ASCII letters, digits and hyphens, of
at most 255 bytes.  `Identifier.ofString?` is the only way from a text to an identifier.
-/

/-- Why a text is no identifier. -/
inductive IdentifierError where
  | empty
  | tooLong (length : Nat)
  | invalidCharacter (identifier : String) (character : Char)
  | malformed (identifier : String)
deriving DecidableEq, Repr

/-- A bundle identifier has at most this many bytes. -/
def Identifier.maxLength : Nat := 255

/-- The wording of an identifier error. -/
def IdentifierError.message : IdentifierError → String
  | .empty => "Extension identifier is empty"
  | .tooLong length =>
    s!"Extension identifier too long: {length} bytes (max: {Identifier.maxLength})"
  | .invalidCharacter identifier c =>
    "Invalid character " ++ quoteChar c ++ s!" in extension identifier '{identifier}'"
  | .malformed identifier =>
    s!"Extension identifier '{identifier}' must be a dotted reverse-DNS name"

namespace Identifier

/-- The characters of an identifier. -/
def isAllowed (c : Char) : Bool := c.isAlphanum || c = '-' || c = '.'

/-- The pieces of a text between dots; there is one more than there are dots. -/
def segments : List Char → List (List Char)
  | [] => [[]]
  | c :: rest =>
    if c = '.' then [] :: segments rest
    else
      match segments rest with
      | [] => [[c]]
      | s :: more => (c :: s) :: more

/-- Whether a text is a dotted name without empty pieces. -/
def isDotted (s : List Char) : Bool := s.contains '.' && !(segments s).any List.isEmpty

/-- Checks a text; of several faults the first in this order is reported: empty, too long, a
character that is not allowed, not a dotted name. -/
def check (text : String) : Except IdentifierError Unit :=
  if text.isEmpty then .error .empty
  else if maxLength < text.utf8ByteSize then .error (.tooLong text.utf8ByteSize)
  else
    match text.toList.find? fun c => !isAllowed c with
    | some c => .error (.invalidCharacter text c)
    | none => if isDotted text.toList then .ok () else .error (.malformed text)

end Identifier

/-- A bundle identifier. -/
structure Identifier where
  text : String
  checked : Identifier.check text = .ok ()
deriving DecidableEq

namespace Identifier

/-- The identifier that a text spells. -/
def ofString? (text : String) : Except IdentifierError Identifier :=
  match h : check text with
  | .ok () => .ok ⟨text, h⟩
  | .error e => .error e

/-- The bundle identifier of the virtual USB driver. -/
def standardText : String := "id.bulwark.VirtualUSBDriver.driver"

theorem check_standardText : check standardText = .ok () := by rfl

/-- The identifier of the virtual USB driver. -/
def standard : Identifier := ⟨standardText, check_standardText⟩

instance : Inhabited Identifier := ⟨standard⟩

instance : ToString Identifier := ⟨Identifier.text⟩

theorem ofString?_text (i : Identifier) : ofString? i.text = .ok i := by
  obtain ⟨text, h⟩ := i
  unfold ofString?
  split
  · rfl
  · rename_i e he
    rw [h] at he
    cases he

theorem text_of_ofString? {text : String} {i : Identifier} (h : ofString? text = .ok i) :
    i.text = text := by
  unfold ofString? at h
  split at h
  · rw [← Except.ok.inj h]
  · cases h

/-- Identifiers are written as text. -/
def encode (i : Identifier) : Document := .string i.text

/-- Reads an identifier. -/
def decode (source : Source) (d : Document) : Decoded Identifier := do
  match ofString? (← Decode.text source d) with
  | .ok i => return i
  | .error e => throw (.rejected e.message)

end Identifier
end DriverExtension
