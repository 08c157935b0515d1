import DriverExtension.Settings.Basic
import DriverExtension.Storage.Files
import DriverExtension.Toml.Excerpt

namespace DriverExtension

open Log Storage

/-!
# Settings in files

Settings are kept in a TOML file.  `Settings.load` reads them from a given path or from the first
standard place where there is a file; `Settings.save` writes them.
-/

/-- The part of the environment that standard places depend on. -/
structure Surroundings where
  /-- The home directory, if there is one. -/
  home : Option String
  /-- The directory for settings, if one is set. -/
  configHome : Option String
deriving DecidableEq, Repr

namespace Surroundings

/-- The home directory; an empty one counts as none. -/
def home? (s : Surroundings) : Option String := s.home.filter fun h => !h.isEmpty

/-- The directory for settings of all programs; a relative one that is set does not count. -/
def configRoot? (s : Surroundings) : Option String :=
  match s.configHome with
  | some dir => if isAbsolute dir then some dir else fromHome
  | none => fromHome
where
  /-- The directory for settings in the home directory. -/
  fromHome : Option String := s.home?.map fun home => join home ".config"

/-- The directory for the settings of the installer. -/
def configDirectory (s : Surroundings) : String :=
  match s.configRoot? with
  | some dir => join dir "virtual-usb"
  | none => ".config/virtual-usb"

/-- The standard file for settings. -/
def settingsPath (s : Surroundings) : String := join s.configDirectory "installer.toml"

/-- The standard log file. -/
def logPath (s : Surroundings) : String := join s.configDirectory "installer.log"

/-- A path given by the user, in which a tilde stands for the home directory. -/
def expand (s : Surroundings) (path : String) : String := expandHome s.home? path

end Surroundings

/-- The settings file of the whole system. -/
def systemSettingsPath : String := "/etc/virtual-usb/installer.toml"

/-- Why settings cannot be loaded or saved. -/
inductive SettingsError where
  /-- There is no file at a standard place. -/
  | missing
  | unreadable (path : String) (cause : FileError)
  | notToml (path : String) (cause : Toml.Excerpt)
  | unsuitable (path : String) (fault : DecodeError) (cause : Toml.Excerpt)
  | invalid (cause : Fault)
  | noDirectory (path : String) (cause : FileError)
  | unwritable (path : String) (cause : FileError)
deriving DecidableEq, Repr

namespace SettingsError

/-- The wording of an error. -/
def message : SettingsError → String
  | .missing => "No configuration file found, using defaults"
  | .unreadable path _ => "Failed to read config file: " ++ path
  | .notToml path _ | .unsuitable path _ _ => "Failed to parse config file: " ++ path
  | .invalid cause => cause.message
  | .noDirectory path _ => "Failed to create config directory: " ++ path
  | .unwritable path _ => "Failed to write config file: " ++ path

/-- The wording of what lies behind an error. -/
def cause? : SettingsError → Option String
  | .missing | .invalid _ => none
  | .unreadable _ cause | .noDirectory _ cause | .unwritable _ cause => some cause.message
  | .notToml _ cause | .unsuitable _ _ cause => some cause.report

end SettingsError

namespace Settings

/-- The target of records about settings. -/
def target : String := "dext_installer::config"

/-- The log file of the terminal interface. -/
def logFile (s : Settings) (env : Surroundings) : String := s.installer.logFile.getD env.logPath

/-! ### Writing -/

/-- A line that gives a text to a name. -/
def assignment (name value : String) : String := name ++ " = " ++ Toml.quote value ++ "\n"

/-- Settings as a TOML text; what is not set is not written. -/
def toToml (s : Settings) : String :=
  "[installer]\n" ++ assignment "log_level" s.installer.logLevel
    ++ (match s.installer.logFile with
      | some path => assignment "log_file" path
      | none => "")
    ++ "\n[extension]\n" ++ assignment "identifier" s.extension.identifier.text
    ++ assignment "replacement" s.extension.replacement.name

/-- The record of a save. -/
def saved (path : String) : Record := ⟨.info, target, "Saved configuration to: " ++ path⟩

/-- Writes settings to a file, for which directories are made as needed. -/
def save (s : Settings) (path : String) (files : FileTree) :
    Except SettingsError (FileTree × List Record) := do
  let files ← match parent path with
    | none => pure files
    | some directory =>
      (files.makeDirectories directory).mapError (.noDirectory directory)
  let files ← (files.writeText path s.toToml).mapError (.unwritable path)
  return (files, [saved path])

/-! ### Reading -/

/-- The settings that a TOML text describes; `path` is where it was found. -/
def ofToml (path text : String) : Except SettingsError Settings :=
  match Toml.parse text with
  | .error f => .error (.notToml path (.malformed text f))
  | .ok t =>
    (decode .toml t.document).mapError fun e =>
      .unsuitable path e (.unsuitable text t e)

/-- The settings in a file. -/
def loadFrom (path : String) (files : FileTree) : Except SettingsError Settings := do
  let text ← (files.readText path).mapError (.unreadable path)
  let settings ← ofToml path text
  settings.validate.mapError .invalid
  return settings

/-- The first standard place where there is a file. -/
def standardPath? (env : Surroundings) (files : FileTree) : Option String :=
  [env.settingsPath, systemSettingsPath].find? files.contains

/-- Loads settings from a given file or from a standard place; tells which file they come from. -/
def load (env : Surroundings) (files : FileTree) (path : Option String) :
    Except SettingsError (Settings × String) :=
  match path <|> standardPath? env files with
  | none => .error .missing
  | some path => (loadFrom path files).map fun settings => (settings, path)

/-- Loads settings from a standard place.  Where that fails the settings are the standard ones, come
from no file, and the error is told. -/
def loadOrStandard (env : Surroundings) (files : FileTree) :
    Settings × Option String × Option SettingsError :=
  match load env files none with
  | .ok (settings, path) => (settings, some path, none)
  | .error e => (standard, none, some e)

end Settings
end DriverExtension
