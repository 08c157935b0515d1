import DriverExtension.Document.Decode

namespace DriverExtension

/-!
# How requests end

A finished request carries a `Completion`, made from the raw result code of the system; a failed one
carries a `Failure`, whose error code has a name in the domain of system extensions.
-/

/-- The result of a finished request. -/
inductive Completion where
  | completed
  | afterReboot
  /-- A result code without a name. -/
  | other (code : Int64)
deriving DecidableEq, Repr

namespace Completion

/-- The result of a raw code. -/
def ofRaw (raw : Int64) : Completion :=
  if raw = 0 then .completed
  else if raw = 1 then .afterReboot
  else .other raw

/-- The raw code of a result. -/
def raw : Completion → Int64
  | .completed => 0
  | .afterReboot => 1
  | .other code => code

instance : ToString Completion where
  toString
    | .completed => "completed"
    | .afterReboot => "will complete after reboot"
    | .other code => s!"unknown result {code.toInt}"

/-- Results are written by name, those without a name with their code. -/
def encode : Completion → Document
  | .completed => .string "Completed"
  | .afterReboot => .string "WillCompleteAfterReboot"
  | .other code => .object [("Other", .int code.toInt)]

/-- The names of the results. -/
def variants (source : Source) : Variants Completion :=
  [("Completed", .none .completed), ("WillCompleteAfterReboot", .none .afterReboot),
   ("Other", .one fun d => do return .other (← Decode.integer64 source d))]

/-- Reads a result. -/
def decode (source : Source) : Document → Decoded Completion := (variants source).read source

end Completion

/-- The named error codes of system extensions. -/
inductive FailureKind where
  | unknown
  | missingEntitlement
  | unsupportedParentBundleLocation
  | extensionNotFound
  | extensionMissingIdentifier
  | duplicateExtensionIdentifier
  | unknownExtensionCategory
  | codeSignatureInvalid
  | validationFailed
  | forbiddenBySystemPolicy
  | requestCanceled
  | requestSuperseded
  | authorizationRequired
  /-- An error code without a name. -/
  | other (code : Int64)
deriving DecidableEq, Repr

namespace FailureKind

/-- The kinds with a code of their own, from code 1 on: the kind, its written name, its label. -/
def table : List (FailureKind × String × String) :=
  [(.unknown, "Unknown", "unknown"),
   (.missingEntitlement, "MissingEntitlement", "missing entitlement"),
   (.unsupportedParentBundleLocation, "UnsupportedParentBundleLocation",
     "unsupported parent bundle location"),
   (.extensionNotFound, "ExtensionNotFound", "extension not found"),
   (.extensionMissingIdentifier, "ExtensionMissingIdentifier", "extension missing identifier"),
   (.duplicateExtensionIdentifier, "DuplicateExtensionIdentifier",
     "duplicate extension identifier"),
   (.unknownExtensionCategory, "UnknownExtensionCategory", "unknown extension category"),
   (.codeSignatureInvalid, "CodeSignatureInvalid", "code signature invalid"),
   (.validationFailed, "ValidationFailed", "validation failed"),
   (.forbiddenBySystemPolicy, "ForbiddenBySystemPolicy", "forbidden by system policy"),
   (.requestCanceled, "RequestCanceled", "request canceled"),
   (.requestSuperseded, "RequestSuperseded", "request superseded"),
   (.authorizationRequired, "AuthorizationRequired", "authorization required")]

/-- The kind of an error code: the codes 1 to 13 have names. -/
def ofCode (code : Int64) : FailureKind :=
  if 1 ≤ code.toInt ∧ code.toInt ≤ table.length then
    match table[code.toInt.toNat - 1]? with
    | some (kind, _) => kind
    | none => .other code
  else .other code

/-- The written name of a kind with a name. -/
def name? (k : FailureKind) : Option String := (table.lookup k).map (·.1)

instance : ToString FailureKind where
  toString k :=
    match k with
    | .other code => s!"code {code.toInt}"
    | k => ((table.lookup k).map (·.2)).getD ""

/-- Kinds are written by name, those without a name with their code. -/
def encode (k : FailureKind) : Document :=
  match k with
  | .other code => .object [("Other", .int code.toInt)]
  | k => .string (k.name?.getD "")

/-- The names of the kinds. -/
def variants (source : Source) : Variants FailureKind :=
  table.map (fun (kind, name, _) => (name, .none kind)) ++
    [("Other", .one fun d => do return .other (← Decode.integer64 source d))]

/-- Reads a kind. -/
def decode (source : Source) : Document → Decoded FailureKind := (variants source).read source

end FailureKind

/-- The error of a failed request. -/
structure Failure where
  domain : String
  code : Int64
  description : String
deriving DecidableEq, Repr

namespace Failure

/-- The error domain of system extensions. -/
def systemDomain : String := "OSSystemExtensionErrorDomain"

/-- A failure in the domain of system extensions. -/
def ofSystem (code : Int64) (description : String) : Failure := ⟨systemDomain, code, description⟩

/-- The kind of a failure; codes of other domains have no name. -/
def kind (f : Failure) : FailureKind :=
  if f.domain = systemDomain then .ofCode f.code else .other f.code

instance : ToString Failure := ⟨fun f => s!"{f.description} ({f.domain} {f.code.toInt})"⟩

/-- The members of a written failure. -/
def shape (source : Source) : Shape where
  title := "struct RequestFailure"
  members :=
    [⟨"domain", false, Decode.checked (Decode.text source)⟩,
     ⟨"code", false, Decode.checked (Decode.integer64 source)⟩,
     ⟨"description", false, Decode.checked (Decode.text source)⟩]

/-- Failures are written as records. -/
def encode (f : Failure) : Document :=
  .object [("domain", .string f.domain), ("code", .int f.code.toInt),
    ("description", .string f.description)]

/-- Reads a failure. -/
def decode (source : Source) (d : Document) : Decoded Failure := do
  let found ← (shape source).read source d
  let domain ← found.get "domain" (Decode.text source)
  let code ← found.get "code" (Decode.integer64 source)
  let description ← found.get "description" (Decode.text source)
  return ⟨domain, code, description⟩

end Failure
end DriverExtension
