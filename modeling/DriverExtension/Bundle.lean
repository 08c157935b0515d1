import DriverExtension.Identifier

namespace DriverExtension

/-!
# Bundles and their replacement

The system describes the installed and the incoming bundle by their `Bundle` properties when it asks
whether one is to replace the other.  A `ReplacementPolicy` answers without looking at them.
-/

/-- What the system reports of an extension bundle. -/
structure Bundle where
  identifier : String
  version : String
  shortVersion : String
  /-- Where the bundle lies, if that was reported. -/
  path : Option String
deriving DecidableEq, Repr

namespace Bundle

instance : ToString Bundle := ⟨fun b => s!"{b.identifier} {b.shortVersion} ({b.version})"⟩

/-- The driver's own bundle in a given version, inside its application. -/
def ofVersions (shortVersion version : String) : Bundle where
  identifier := Identifier.standard.text
  version := version
  shortVersion := shortVersion
  path := some ("/Applications/VirtualUSB.app/Contents/Library/SystemExtensions/"
    ++ Identifier.standard.text ++ ".dext")

/-- The members of a written bundle. -/
def shape (source : Source) : Shape where
  title := "struct ExtensionProperties"
  members :=
    [⟨"bundle_identifier", false, Decode.checked (Decode.text source)⟩,
     ⟨"bundle_version", false, Decode.checked (Decode.text source)⟩,
     ⟨"bundle_short_version", false, Decode.checked (Decode.text source)⟩,
     ⟨"path", true, Decode.checked (Decode.path? source)⟩]

/-- A path or nothing. -/
def encodePath : Option String → Document
  | some path => .string path
  | none => .null

/-- Bundles are written as records; the path is always among the members. -/
def encode (b : Bundle) : Document :=
  .object [("bundle_identifier", .string b.identifier), ("bundle_version", .string b.version),
    ("bundle_short_version", .string b.shortVersion), ("path", encodePath b.path)]

/-- Reads the properties of a bundle. -/
def decode (source : Source) (d : Document) : Decoded Bundle := do
  let found ← (shape source).read source d
  let identifier ← found.get "bundle_identifier" (Decode.text source)
  let version ← found.get "bundle_version" (Decode.text source)
  let shortVersion ← found.get "bundle_short_version" (Decode.text source)
  let path ← found.getD "path" none (Decode.path? source)
  return ⟨identifier, version, shortVersion, path⟩

end Bundle

/-- An answer to the question whether to replace an installed bundle. -/
inductive ReplacementAction where
  | replace
  | cancel
deriving DecidableEq, Repr

namespace ReplacementAction

/-- The name of an answer. -/
def name : ReplacementAction → String
  | .replace => "replace"
  | .cancel => "cancel"

instance : ToString ReplacementAction := ⟨name⟩

/-- Answers are written by name. -/
def encode (a : ReplacementAction) : Document := .string a.name

/-- The names of the answers. -/
def variants : Variants ReplacementAction :=
  [("replace", .none .replace), ("cancel", .none .cancel)]

/-- Reads an answer. -/
def decode (source : Source) : Document → Decoded ReplacementAction := variants.read source

end ReplacementAction

/-- How the question of replacement is answered. -/
inductive ReplacementPolicy where
  /-- Always replace the installed bundle. -/
  | replace
  /-- Always keep the installed bundle. -/
  | cancel
deriving DecidableEq, Repr

namespace ReplacementPolicy

/-- The policy where none is set. -/
def standard : ReplacementPolicy := .replace

/-- The name of a policy. -/
def name : ReplacementPolicy → String
  | .replace => "replace"
  | .cancel => "cancel"

/-- The name of a policy with a capital. -/
def title : ReplacementPolicy → String
  | .replace => "Replace"
  | .cancel => "Cancel"

/-- The answer for two bundles; it depends on the policy alone. -/
def decide (p : ReplacementPolicy) (_existing _replacement : Bundle) : ReplacementAction :=
  match p with
  | .replace => .replace
  | .cancel => .cancel

/-- Policies are written by name. -/
def encode (p : ReplacementPolicy) : Document := .string p.name

/-- The names of the policies. -/
def variants : Variants ReplacementPolicy :=
  [("replace", .none .replace), ("cancel", .none .cancel)]

/-- Reads a policy. -/
def decode (source : Source) : Document → Decoded ReplacementPolicy := variants.read source

end ReplacementPolicy
end DriverExtension
