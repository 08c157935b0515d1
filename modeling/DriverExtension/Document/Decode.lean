import DriverExtension.Document.Writer

namespace DriverExtension

open Number Text

/-!
# Decoding documents

A value of the domain is read from a document member by member, and the first fault is reported.
What may stand where differs a little between the sources of documents (`Source`).

* `DecodeError`, `DecodeError.message` — the faults and their wording;
* `DecodeError.trail` — in which part of a TOML document a fault is;
* `Decode.text`, `Decode.word64`, `Decode.integer64`, … — scalars;
* `Shape.read` — records, given as objects or as arrays of their members in order;
* `Variants.read` — one of several named alternatives.
-/

/-- Where a document comes from. -/
inductive Source where
  /-- A JSON value: the members of its objects are sorted by name and occur once. -/
  | value
  /-- A JSON text, decoded while it is read. -/
  | text
  /-- A part of a JSON document that was set aside until its type was known. -/
  | buffer
  /-- A TOML document. -/
  | toml
deriving DecidableEq, Repr

/-- What was found in the place of something else. -/
inductive Found where
  | null
  | bool (b : Bool)
  | int (n : Int)
  | float (x : Binary64)
  | string (s : String)
  | sequence
  | map
  | unitVariant
deriving DecidableEq, Repr

/-- TOML shows numbers positionally. -/
def tomlFloatStyle : FloatStyle := ⟨.upward, none, "inf", "NaN"⟩

/-- The name of what was found. -/
def Found.describe (source : Source) : Found → String
  | .null => "null"
  | .bool b => s!"boolean `{b}`"
  | .int n => s!"integer `{n}`"
  | .float x =>
    let style := if source = .toml then tomlFloatStyle else Document.floatStyle
    s!"floating point `{style.write x}`"
  | .string s => "string " ++ quoteString s
  | .sequence => "sequence"
  | .map => "map"
  | .unitVariant => "unit variant"

/-- A step from a document to a part of it. -/
inductive Step where
  | member (name : String)
  | item (n : Nat)
  /-- The name of the only member, which names an alternative. -/
  | alternative
  /-- What follows that name. -/
  | payload
deriving DecidableEq, Repr

/-- Why a document does not decode. -/
inductive DecodeError where
  /-- The text is no JSON at the place that was to be read. -/
  | malformed
  | wrongType (source : Source) (found : Found) (expected : String)
  | wrongValue (source : Source) (found : Found) (expected : String)
  | wrongLength (length : Nat) (expected : String)
  | missingField (name : String)
  | duplicateField (name : String)
  | unknownVariant (name : String) (known : List String)
  /-- The document is not of the form that an alternative needs. -/
  | unsuitable (wanted : String)
  /-- The text is no value of its domain type; the cause is given in words. -/
  | rejected (cause : String)
  /-- The fault is in a part of the document. -/
  | within (step : Step) (fault : DecodeError)
deriving DecidableEq, Repr

/-- Names as they are listed after "expected". -/
def listNames : List String → String
  | [] => "there are no variants"
  | [a] => s!"expected `{a}`"
  | [a, b] => s!"expected `{a}` or `{b}`"
  | names => "expected one of " ++ ", ".intercalate (names.map fun n => s!"`{n}`")

/-- The wording of a fault. -/
def DecodeError.message : DecodeError → String
  | .malformed => "malformed text"
  | .wrongType source found expected =>
    "invalid type: " ++ found.describe source ++ ", expected " ++ expected
  | .wrongValue source found expected =>
    "invalid value: " ++ found.describe source ++ ", expected " ++ expected
  | .wrongLength length expected => s!"invalid length {length}, expected " ++ expected
  | .missingField name => s!"missing field `{name}`"
  | .duplicateField name => s!"duplicate field `{name}`"
  | .unknownVariant name known => s!"unknown variant `{name}`, " ++ listNames known
  | .unsuitable wanted => "wanted " ++ wanted
  | .rejected cause => cause
  | .within _ fault => fault.message

/-- The steps to the part of the document where the fault is, as far as they are told. -/
def DecodeError.trail : DecodeError → List Step
  | .within step fault => step :: fault.trail
  | _ => []

/-- The result of decoding. -/
abbrev Decoded (α : Type) := Except DecodeError α

/-- The result of decoding a part of a document.  Only in TOML the part is told. -/
def Source.within {α : Type} (source : Source) (step : Step) (r : Decoded α) : Decoded α :=
  if source = .toml then r.mapError (.within step) else r

/-- The result of decoding an item of an array.  Where a text is refused, only the array is told. -/
def Source.withinItem {α : Type} (source : Source) (n : Nat) (r : Decoded α) : Decoded α :=
  match r with
  | .error (.rejected _) => r
  | r => source.within (.item n) r

/-- What a document is in an error message, or the fault of form that it is. -/
def Document.found : Document → Decoded Found
  | .null => .ok .null
  | .bool b => .ok (.bool b)
  | .int n => .ok (.int n)
  | .float x => .ok (.float x)
  | .string s => .ok (.string s)
  | .date | .object _ => .ok .map
  | .array _ => .ok .sequence
  | .broken | .unreadable | .badKey _ _ => .error .malformed

namespace Decode

/-- A document of another type than expected. -/
def mistyped {α : Type} (source : Source) (d : Document) (expected : String) : Decoded α := do
  throw (.wrongType source (← d.found) expected)

/-- A text. -/
def text (source : Source) : Document → Decoded String
  | .string s => .ok s
  | d => mistyped source d "a string"

/-- A natural number below `2 ^ 64`. -/
def word64 (source : Source) : Document → Decoded UInt64
  | .int n =>
    if 0 ≤ n ∧ n < 0x10000000000000000 then .ok (.ofNat n.toNat)
    else .error (.wrongValue source (.int n) "u64")
  | d => mistyped source d "u64"

/-- An integer from `-2 ^ 63` to `2 ^ 63 - 1`. -/
def integer64 (source : Source) : Document → Decoded Int64
  | .int n =>
    if -0x8000000000000000 ≤ n ∧ n < 0x8000000000000000 then .ok (.ofInt n)
    else .error (.wrongValue source (.int n) "i64")
  | d => mistyped source d "i64"

/-- A path or nothing. -/
def path? (source : Source) : Document → Decoded (Option String)
  | .null => .ok none
  | .string s => .ok (some s)
  | d => mistyped source d "path string"

/-- Passes over a document that nobody asks for. -/
def skip (d : Document) : Decoded Unit := if d.complete then .ok () else .error .malformed

/-- How deeply a JSON text may be nested where it is read. -/
def nestingLimit : Nat := 127

/-- Sets a document aside that stands `outer` levels deep in its text. -/
def setAside (source : Source) (outer : Nat) (d : Document) : Decoded Unit :=
  if source = .text && !(d.sound && d.depth + outer ≤ nestingLimit) then .error .malformed
  else .ok ()

end Decode

/-! ### Records -/

/-- A declared member of a record. -/
structure Member where
  name : String
  /-- Whether it may be left out. -/
  optional : Bool
  /-- What its document must be. -/
  check : Document → Decoded Unit

/-- The declared members of a record, in order. -/
structure Shape where
  title : String
  members : List Member

/-- The members that were found, by name. -/
abbrev Found.Members := List (String × Document)

namespace Shape

/-- The number of members in words. -/
def elements (n : Nat) : String := if n = 1 then "1 element" else s!"{n} elements"

/-- What an array of the members is called when it is too short. -/
def expectation (shape : Shape) : String :=
  shape.title ++ " with " ++ elements shape.members.length

/-- Reads the members of an object in the order of the document. -/
def scanMembers (source : Source) (shape : Shape) :
    List (String × Document) → Found.Members → Decoded Found.Members
  | [], found => .ok found
  | (name, d) :: rest, found =>
    match d with
    | .badKey _ _ => .error .malformed
    | _ =>
      match shape.members.find? (·.name = name) with
      | none => do
        Decode.skip d
        scanMembers source shape rest found
      | some member =>
        if (found.lookup name).isSome then .error (.duplicateField name)
        else do
          source.within (.member name) (member.check d)
          scanMembers source shape rest (found ++ [(name, d)])

/-- The first declared member that must be there and is not. -/
def missing (shape : Shape) (found : Found.Members) : Option String :=
  (shape.members.find? fun member => !member.optional && (found.lookup member.name).isNone).map
    (·.name)

/-- Reads members from the items of an array, in the order of declaration; `read` of them have been
read before. -/
def scanItems (source : Source) (shape : Shape) (read : Nat) :
    List Member → List Document → Decoded Found.Members
  | [], [] => .ok []
  | [], rest =>
    match source with
    | .value => .error (.wrongLength (read + rest.length) "fewer elements in array")
    | .buffer => .error (.wrongLength (read + rest.length) (elements read ++ " in sequence"))
    | .text => .error .malformed
    | .toml => .ok []
  | member :: members, [] =>
    if member.optional then scanItems source shape read members []
    else .error (.wrongLength read shape.expectation)
  | member :: members, d :: rest => do
    source.withinItem read (member.check d)
    let found ← scanItems source shape (read + 1) members rest
    return (member.name, d) :: found

/-- Reads the members of a record. -/
def read (source : Source) (shape : Shape) (d : Document) : Decoded Found.Members :=
  match d with
  | .object members => do
    let found ← shape.scanMembers source members []
    match shape.missing found with
    | some name => throw (.missingField name)
    | none => return found
  | .array items => shape.scanItems source 0 shape.members items
  | .date => do
    match shape.missing [] with
    | some name => throw (.missingField name)
    | none => return []
  | d => Decode.mistyped source d shape.title

end Shape

namespace Found.Members

/-- A member that must be there. -/
def get {α : Type} (found : Members) (name : String) (decode : Document → Decoded α) : Decoded α :=
  match found.lookup name with
  | some d => decode d
  | none => .error (.missingField name)

/-- A member that has a default. -/
def getD {α : Type} (found : Members) (name : String) (default : α)
    (decode : Document → Decoded α) : Decoded α :=
  match found.lookup name with
  | some d => decode d
  | none => .ok default

end Found.Members

/-- A decoder used as a check. -/
def Decode.checked {α : Type} (decode : Document → Decoded α) (d : Document) : Decoded Unit :=
  (decode d).map fun _ => ()

/-! ### Alternatives -/

/-- What follows the name of an alternative. -/
inductive Payload (α : Type) where
  /-- Nothing follows. -/
  | none (value : α)
  /-- A value follows. -/
  | one (decode : Document → Decoded α)

/-- Named alternatives, in the order of declaration. -/
abbrev Variants (α : Type) := List (String × Payload α)

namespace Variants

variable {α : Type}

/-- What stands where no payload is expected: nothing, or in TOML an empty table or array. -/
def checkEmpty (source : Source) (d : Document) : Decoded Unit :=
  match source, d with
  | .toml, .object [] | .toml, .array [] => .ok ()
  | .toml, .object _ => .error (.rejected "expected empty table")
  | .toml, .array _ => .error (.rejected "expected empty array")
  | .toml, .string _ => .error (.rejected "expected table, found string")
  | .toml, .int _ => .error (.rejected "expected table, found integer")
  | .toml, .float _ => .error (.rejected "expected table, found float")
  | .toml, .bool _ => .error (.rejected "expected table, found boolean")
  | .toml, .date => .error (.rejected "expected table, found datetime")
  | _, .null | .buffer, .object [] => .ok ()
  | _, d => Decode.mistyped source d "unit"

/-- The alternative of a name. -/
def find (variants : Variants α) (name : String) : Decoded (Payload α) :=
  match variants.lookup name with
  | some payload => .ok payload
  | none => .error (.unknownVariant name (variants.map (·.1)))

/-- An alternative given by its name alone. -/
def bare (source : Source) (variants : Variants α) (name : String) : Decoded α := do
  match ← variants.find name with
  | .none value => return value
  | .one _ => throw (.wrongType source .unitVariant "newtype variant")

/-- An alternative given by its name and its payload. -/
def full (source : Source) (variants : Variants α) (name : String) (d : Document) : Decoded α := do
  match ← source.within .alternative (variants.find name) with
  | .none value =>
    source.within .payload (checkEmpty source d)
    return value
  | .one decode => source.within .payload (decode d)

/-- The alternative that a document names, as a text or as an object of one member. -/
def read (source : Source) (variants : Variants α) (d : Document) : Decoded α :=
  match source, d with
  | _, .string name => variants.bare source name
  | .text, .object ((_, .badKey _ _) :: _) => .error .malformed
  | .text, .object [(name, d)] => variants.full source name d
  | .text, .object ((name, d) :: _) => do
    let _ ← variants.full source name d
    throw .malformed
  | .text, _ => .error .malformed
  | .toml, .object [(name, d)] => variants.full source name d
  | .toml, .object [] => .error (.unsuitable "exactly 1 element, found 0 elements")
  | .toml, .object _ => .error (.unsuitable "exactly 1 element, more than 1 element")
  | .toml, _ => .error (.unsuitable "string or table")
  | _, .object [(name, d)] => variants.full source name d
  | _, .object _ => .error (.wrongValue source .map "map with a single key")
  | _, d => Decode.mistyped source d "string or map"

end Variants
end DriverExtension
