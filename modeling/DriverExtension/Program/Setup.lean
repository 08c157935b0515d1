import DriverExtension.CommandLine.Parse
import DriverExtension.Lifecycle.Attempt
import DriverExtension.Log.Line
import DriverExtension.Program.Report
import DriverExtension.Settings.Store

namespace DriverExtension

open CommandLine Log Storage

/-!
# Setting up a run

Before anything is submitted the command line is read, the settings are loaded, and logging is set
up.  What stands on the command line goes before what the settings say.

* `Setup.prepare` — the settings in force;
* `Ready.begin` — everything up to the first record.
-/

/-- The environment of a run. -/
structure Environment where
  surroundings : Surroundings
  /-- The filter that is asked for instead of the configured level. -/
  logFilter : Option String
deriving DecidableEq, Repr

/-- What is in force during a run. -/
structure Setup where
  settings : Settings
  /-- The file that the settings come from. -/
  path : Option String
  /-- Why the settings are the standard ones. -/
  warning : Option SettingsError
  /-- The word for the log level. -/
  level : String
  /-- The extension that is managed. -/
  identifier : Identifier
  policy : ReplacementPolicy
  command : Command
deriving DecidableEq

namespace Setup

/-- The settings in force, given the settings that were loaded. -/
def combine (a : Arguments) (settings : Settings) (path : Option String)
    (warning : Option SettingsError) : Setup where
  settings := settings
  path := path
  warning := warning
  level := (a.logLevel.map Level.word).getD settings.installer.logLevel
  identifier := a.identifier.getD settings.extension.identifier
  policy := settings.extension.replacement
  command := a.command.getD .console

/-- The settings in force.  A settings file that is asked for must be good; where none is asked for,
the standard settings are used when there is no good one. -/
def prepare (env : Surroundings) (files : FileTree) (a : Arguments) :
    Except SettingsError Setup :=
  match a.config with
  | some path =>
    (Settings.load env files (some (env.expand path))).map fun (settings, path) =>
      combine a settings (some path) none
  | none =>
    let (settings, path, warning) := Settings.loadOrStandard env files
    .ok (combine a settings path warning)

/-- The warning about settings that could not be loaded. -/
def warningText (s : Setup) : String :=
  match s.warning with
  | some e => s!"Config: {e.message}\n"
  | none => ""

/-- The first records of a run. -/
def records (s : Setup) (m : Manager) : List Record :=
  let record (message : String) : Record := ⟨.info, Attempt.target, message⟩
  [record s!"Virtual USB driver installer v{Help.programVersion}",
   record (match s.path with
     | some path => "Loaded configuration from: " ++ path
     | none => "Using default configuration"),
   record s!"Managing {s.identifier} via {m.name} (replacement policy: {s.policy.title})"]

end Setup

/-! ### Complaints -/

/-- The complaint about settings that cannot be loaded or saved. -/
def SettingsError.complaint (summary : String) (e : SettingsError) : Complaint :=
  ⟨summary, e.message :: e.cause?.toList⟩

/-- The causes of a fault: its own wording, and what the system said. -/
def Fault.causes (f : Fault) : List String :=
  f.message :: (match f with
    | .inputOutput reason => [reason]
    | _ => [])

/-- The complaint about logging that cannot be set up. -/
def loggingComplaint (f : Fault) : Complaint := ⟨"Failed to setup logging", f.causes⟩

/-! ### Log files -/

namespace LogFile

/-- A file error as a fault. -/
def fault (e : FileError) : Fault := .inputOutput e.message

/-- Makes a log file and the directories above it, as far as they are missing. -/
def openAt (path : String) (files : FileTree) : Except Fault FileTree := do
  let files ← match parent path with
    | none => pure files
    | some directory => (files.makeDirectories directory).mapError fault
  (files.appendText path "").mapError fault

/-- Appends to a log file. -/
def append (path text : String) (files : FileTree) : FileTree :=
  match files.appendText path text with
  | .ok files => files
  | .error _ => files

end LogFile

/-! ### The beginning of a run -/

/-- A run that is ready to submit. -/
structure Ready where
  setup : Setup
  filter : Filter
  files : FileTree

namespace Ready

/-- The report of a run that ends with a complaint. -/
def complain (files : FileTree) (output errors : String) (c : Complaint) : Report :=
  ⟨Report.failure, output, errors ++ c.message, files⟩

/-- The report of a command line that leads to no run. -/
def stopped (files : FileTree) : Stop → Report
  | .print text => ⟨Report.success, text, "", files⟩
  | .usage e => ⟨Report.misuse, "", e.report, files⟩

/-- The report of a run that only saves the standard settings. -/
def saveStandard (env : Surroundings) (files : FileTree) : Report :=
  match Settings.standard.save env.settingsPath files with
  | .ok (files, _) =>
    ⟨Report.success, s!"Configuration saved to: {env.settingsPath}\n", "", files⟩
  | .error e => complain files "" "" (e.complaint "Failed to save configuration")

/-- Sets up logging: to a file for the console, which has the output to itself. -/
def openLog (env : Environment) (s : Setup) (files : FileTree) : Except Fault Ready := do
  let filter ← Filter.choose env.logFilter s.level
  match s.command with
  | .console =>
    return ⟨s, filter, ← LogFile.openAt (s.settings.logFile env.surroundings) files⟩
  | _ => return ⟨s, filter, files⟩

/-- Everything up to the first record, or the report of a run that ends before it. -/
def begin (env : Environment) (files : FileTree) (words : List String) : Except Report Ready := do
  let a ← (parse words).mapError (stopped files)
  if a.saveConfig then throw (saveStandard env.surroundings files)
  let s ← (Setup.prepare env.surroundings files a).mapError fun e =>
    complain files "" "" (e.complaint "Failed to load configuration")
  (openLog env s files).mapError fun f => complain files "" s.warningText (loggingComplaint f)

end Ready
end DriverExtension
