import DriverExtension.Identifier
import DriverExtension.Log.Level
import DriverExtension.Terminal.Escape

namespace DriverExtension.CommandLine

open Log Terminal

/-!
# What can be asked for on the command line

Options stand before the command.  A `Setting` is an option with a value, a `Flag` one without.
-/

/-- The commands. -/
inductive Command where
  | install
  | uninstall
  /-- The console in the terminal. -/
  | console
deriving DecidableEq, Repr

namespace Command

/-- The word for a command. -/
def name : Command → String
  | .install => "install"
  | .uninstall => "uninstall"
  | .console => "tui"

/-- What a command does, in a line. -/
def summary : Command → String
  | .install => "Activate the driver extension and wait for the outcome"
  | .uninstall => "Deactivate the driver extension and wait for the outcome"
  | .console => "Two-button terminal UI (default)"

/-- The commands in the order of the help. -/
def all : List Command := [.install, .uninstall, .console]

/-- The command of a word. -/
def named? (word : String) : Option Command := all.find? (·.name = word)

end Command

/-- The word that asks for help like a command. -/
def helpWord : String := "help"

/-- The options with a value. -/
inductive Setting where
  | config
  | logLevel
  | identifier
deriving DecidableEq, Repr

namespace Setting

/-- The long name of an option. -/
def name : Setting → String
  | .config => "config"
  | .logLevel => "log-level"
  | .identifier => "identifier"

/-- What an option is called in messages. -/
def label : Setting → String
  | .config => "--config <PATH>"
  | .logLevel => "--log-level <LEVEL>"
  | .identifier => "--identifier <BUNDLE_ID>"

/-- The option of a long name. -/
def named? (word : String) : Option Setting :=
  [config, logLevel, identifier].find? (·.name = word)

/-- The option of a letter. -/
def lettered? : Char → Option Setting
  | 'c' => some .config
  | 'l' => some .logLevel
  | _ => none

end Setting

/-- The options without a value. -/
inductive Flag where
  | saveConfig
  | help
  | version
deriving DecidableEq, Repr

namespace Flag

/-- The long name of a flag. -/
def name : Flag → String
  | .saveConfig => "save-config"
  | .help => "help"
  | .version => "version"

/-- What a flag is called in messages. -/
def label (f : Flag) : String := "--" ++ f.name

/-- The flag of a long name. -/
def named? (word : String) : Option Flag := [saveConfig, help, version].find? (·.name = word)

/-- The flag of a letter. -/
def lettered? : Char → Option Flag
  | 'h' => some .help
  | 'V' => some .version
  | _ => none

end Flag

/-- What a command line asks for. -/
structure Arguments where
  /-- The settings file that is to be used. -/
  config : Option String
  /-- Whether the standard settings are only to be saved. -/
  saveConfig : Bool
  logLevel : Option Level
  identifier : Option Identifier
  command : Option Command
deriving DecidableEq

/-- The arguments of an empty command line. -/
def Arguments.empty : Arguments := ⟨none, false, none, none, none⟩

/-- Why a command line is refused. -/
inductive UsageError where
  | unexpectedArgument (text : String)
  | unknownCommand (text : String)
  | unexpectedValue (value : String) (flag : Flag)
  | missingValue (setting : Setting)
  | repeatedSetting (setting : Setting)
  | repeatedFlag (flag : Flag)
  | unknownLevel (value : String)
  | badIdentifier (value : String) (cause : IdentifierError)
deriving DecidableEq, Repr

namespace UsageError

/-- The line about the values of an option, if it has only some. -/
def choices : Setting → String
  | .logLevel => "\n  [possible values: " ++ ", ".intercalate (Level.all.map Level.word) ++ "]"
  | _ => ""

/-- The wording of an error, with what was written on the command line set apart by its style. -/
def message : UsageError → String
  | .unexpectedArgument text => s!"unexpected argument '{emphasized text}' found"
  | .unknownCommand text => s!"unrecognized subcommand '{emphasized text}'"
  | .unexpectedValue value flag =>
    s!"unexpected value '{emphasized value}' for '{flag.label}' found; no more were expected"
  | .missingValue setting =>
    s!"a value is required for '{setting.label}' but none was supplied" ++ choices setting
  | .repeatedSetting setting => s!"the argument '{setting.label}' cannot be used multiple times"
  | .repeatedFlag flag => s!"the argument '{flag.label}' cannot be used multiple times"
  | .unknownLevel value =>
    s!"invalid value '{emphasized value}' for '{Setting.logLevel.label}'" ++ choices .logLevel
  | .badIdentifier value cause =>
    s!"invalid value '{emphasized value}' for '{Setting.identifier.label}': {cause.message}"

/-- What is printed about an error; nothing in it can command the terminal. -/
def report (e : UsageError) : String :=
  let hint := emphasized "--help"
  visible s!"error: {e.message}\n\nFor more information, try '{hint}'.\n"

end UsageError
end DriverExtension.CommandLine
