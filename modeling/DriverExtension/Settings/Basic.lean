import DriverExtension.Bundle
import DriverExtension.Log.Level

namespace DriverExtension

/-!
# Settings

The settings have two sections, one for the installer and one for the extension that it manages.
Each section and most of its members may be left out.
-/

/-- The section of the installer itself. -/
structure InstallerSection where
  /-- The word for the log level; it need not be one of the levels. -/
  logLevel : String
  /-- The log file of the terminal interface, if it is not the standard one. -/
  logFile : Option String
deriving DecidableEq, Repr

/-- The section of the managed extension. -/
structure ExtensionSection where
  identifier : Identifier
  replacement : ReplacementPolicy
deriving DecidableEq

/-- All settings. -/
structure Settings where
  installer : InstallerSection
  extension : ExtensionSection
deriving DecidableEq

namespace InstallerSection

/-- The section where none is given. -/
def standard : InstallerSection := ⟨"info", none⟩

/-- The members of the section. -/
def shape (source : Source) : Shape where
  title := "struct InstallerSettings"
  members :=
    [⟨"log_level", false, Decode.checked (Decode.text source)⟩,
     ⟨"log_file", true, Decode.checked (Decode.path? source)⟩]

/-- The section as a record. -/
def encode (s : InstallerSection) : Document :=
  .object [("log_level", .string s.logLevel), ("log_file", Bundle.encodePath s.logFile)]

/-- Reads the section. -/
def decode (source : Source) (d : Document) : Decoded InstallerSection := do
  let found ← (shape source).read source d
  let logLevel ← found.get "log_level" (Decode.text source)
  let logFile ← found.getD "log_file" none (Decode.path? source)
  return ⟨logLevel, logFile⟩

end InstallerSection

namespace ExtensionSection

/-- The section where none is given. -/
def standard : ExtensionSection := ⟨.standard, .standard⟩

/-- The members of the section. -/
def shape (source : Source) : Shape where
  title := "struct ExtensionSettings"
  members :=
    [⟨"identifier", true, Decode.checked (Identifier.decode source)⟩,
     ⟨"replacement", true, Decode.checked (ReplacementPolicy.decode source)⟩]

/-- The section as a record. -/
def encode (s : ExtensionSection) : Document :=
  .object [("identifier", s.identifier.encode), ("replacement", s.replacement.encode)]

/-- Reads the section. -/
def decode (source : Source) (d : Document) : Decoded ExtensionSection := do
  let found ← (shape source).read source d
  let identifier ← found.getD "identifier" .standard (Identifier.decode source)
  let replacement ← found.getD "replacement" .standard (ReplacementPolicy.decode source)
  return ⟨identifier, replacement⟩

end ExtensionSection

namespace Settings

/-- The settings where none are given. -/
def standard : Settings := ⟨.standard, .standard⟩

instance : Inhabited Settings := ⟨standard⟩

/-- The sections. -/
def shape (source : Source) : Shape where
  title := "struct InstallerConfig"
  members :=
    [⟨"installer", true, Decode.checked (InstallerSection.decode source)⟩,
     ⟨"extension", true, Decode.checked (ExtensionSection.decode source)⟩]

/-- The settings as a record. -/
def encode (s : Settings) : Document :=
  .object [("installer", s.installer.encode), ("extension", s.extension.encode)]

/-- Reads settings. -/
def decode (source : Source) (d : Document) : Decoded Settings := do
  let found ← (shape source).read source d
  let installer ← found.getD "installer" .standard (InstallerSection.decode source)
  let extension ← found.getD "extension" .standard (ExtensionSection.decode source)
  return ⟨installer, extension⟩

/-- Checks what decoding leaves unchecked: the log level. -/
def validate (s : Settings) : Except Fault Unit :=
  (Log.Level.ofWord s.installer.logLevel).map fun _ => ()

end Settings
end DriverExtension
