import DriverExtension.Identifier

namespace DriverExtension

/-!
# Lifecycle requests

A request asks the system to activate or deactivate one extension.  Its id ties the answers of the
system to it; ids are words of 64 bits and start again at zero after the last one.
-/

/-- The direction of a request. -/
inductive RequestKind where
  | activate
  | deactivate
deriving DecidableEq, Repr

namespace RequestKind

/-- The name of a direction. -/
def name : RequestKind → String
  | .activate => "activate"
  | .deactivate => "deactivate"

instance : ToString RequestKind := ⟨name⟩

/-- Directions are written by name. -/
def encode (k : RequestKind) : Document := .string k.name

/-- The names of the directions. -/
def variants : Variants RequestKind :=
  [("activate", .none .activate), ("deactivate", .none .deactivate)]

/-- Reads a direction. -/
def decode (source : Source) : Document → Decoded RequestKind := variants.read source

end RequestKind

/-- The number of a request. -/
structure RequestId where
  val : UInt64
deriving DecidableEq, Repr

namespace RequestId

instance : ToString RequestId := ⟨fun id => "#" ++ toString id.val.toNat⟩

/-- The number after this one. -/
def next (id : RequestId) : RequestId := ⟨id.val + 1⟩

/-- Request numbers are written as integers. -/
def encode (id : RequestId) : Document := .int id.val.toNat

/-- Reads a request number. -/
def decode (source : Source) (d : Document) : Decoded RequestId := do
  return ⟨← Decode.word64 source d⟩

end RequestId

/-- A request for one extension. -/
structure Request where
  id : RequestId
  kind : RequestKind
  identifier : Identifier
deriving DecidableEq

namespace Request

instance : ToString Request := ⟨fun r => s!"{r.kind} {r.identifier} {r.id}"⟩

/-- The members of a written request. -/
def shape (source : Source) : Shape where
  title := "struct ExtensionRequest"
  members :=
    [⟨"id", false, Decode.checked (RequestId.decode source)⟩,
     ⟨"kind", false, Decode.checked (RequestKind.decode source)⟩,
     ⟨"identifier", false, Decode.checked (Identifier.decode source)⟩]

/-- Requests are written as records. -/
def encode (r : Request) : Document :=
  .object [("id", r.id.encode), ("kind", r.kind.encode), ("identifier", r.identifier.encode)]

/-- Reads a request. -/
def decode (source : Source) (d : Document) : Decoded Request := do
  let found ← (shape source).read source d
  let id ← found.get "id" (RequestId.decode source)
  let kind ← found.get "kind" (RequestKind.decode source)
  let identifier ← found.get "identifier" (Identifier.decode source)
  return ⟨id, kind, identifier⟩

end Request
end DriverExtension
