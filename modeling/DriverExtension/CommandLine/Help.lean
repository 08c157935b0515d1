import DriverExtension.CommandLine.Basic

namespace DriverExtension.CommandLine.Help

/-!
# Help

The texts that the command line prints about itself.
-/

/-- The name of the program. -/
def programName : String := "dext-installer"

/-- The version of the program. -/
def programVersion : String := "0.1.0"

/-- Lines as a text. -/
def lines (ls : List String) : String := String.join (ls.map (· ++ "\n"))

/-- The answer to the question for the version. -/
def version : String := lines [programName ++ " " ++ programVersion]

/-- What the help command does. -/
def helpSummary : String := "Print this message or the help of the given subcommand(s)"

/-- How the program is called. -/
def usage : String := s!"Usage: {programName} [OPTIONS] [COMMAND]"

/-- A command with what it does, which begins at a fixed column. -/
def row (word summary : String) : String :=
  "  " ++ word ++ String.ofList (List.replicate (11 - word.length) ' ') ++ summary

/-- The commands with what they do. -/
def commands : List String :=
  ["Commands:"]
    ++ Command.all.map (fun c => row c.name c.summary)
    ++ [row helpWord helpSummary]

/-- The short help. -/
def short : String :=
  lines (["Install or uninstall the virtual USB driver extension", "", usage, ""]
    ++ commands ++ ["", "Options:",
    "  -c, --config <PATH>           Path to configuration file",
    "      --save-config             Save default configuration to default location and exit",
    "  -l, --log-level <LEVEL>       Log level (trace, debug, info, warn, error) "
      ++ "[possible values: trace, debug, info, warn, error]",
    "      --identifier <BUNDLE_ID>  Bundle identifier of the driver extension (overrides config)",
    "  -h, --help                    Print help (see more with '--help')",
    "  -V, --version                 Print version"])

/-- The long help. -/
def long : String :=
  lines (["Installs (activates) or uninstalls (deactivates) the virtual USB DriverKit",
    "extension through the macOS system extension manager.",
    "",
    "The binary must run from an app bundle in /Applications that embeds the",
    "driver extension and is signed with the system-extension install entitlement.",
    "",
    "EXAMPLES:",
    "    # Two-button terminal UI",
    "    dext-installer",
    "",
    "    # Install and wait for the outcome",
    "    dext-installer install",
    "",
    "    # Uninstall",
    "    dext-installer uninstall",
    "",
    "    # Manage a differently-named build of the driver",
    "    dext-installer --identifier com.example.VirtualUSBDriver.driver install",
    "",
    "CONFIGURATION:",
    "    The installer looks for configuration files in the following order:",
    "    1. Path specified with --config",
    "    2. ~/Library/Application Support/virtual-usb/installer.toml (macOS)",
    "    3. /etc/virtual-usb/installer.toml",
    "    4. Built-in defaults",
    "",
    "",
    usage, ""]
    ++ commands ++ ["", "Options:",
    "  -c, --config <PATH>",
    "          Path to configuration file",
    "",
    "      --save-config",
    "          Save default configuration to default location and exit",
    "",
    "  -l, --log-level <LEVEL>",
    "          Log level (trace, debug, info, warn, error)",
    "          ",
    "          [possible values: trace, debug, info, warn, error]",
    "",
    "      --identifier <BUNDLE_ID>",
    "          Bundle identifier of the driver extension (overrides config)",
    "",
    "  -h, --help",
    "          Print help (see a summary with '-h')",
    "",
    "  -V, --version",
    "          Print version"])

/-- The help of a command. -/
def ofCommand (c : Command) : String :=
  lines [c.summary, "", s!"Usage: {programName} {c.name}", "", "Options:",
    "  -h, --help  Print help"]

/-- The help of the help command. -/
def ofHelp : String :=
  lines [helpSummary, "", s!"Usage: {programName} {helpWord} [COMMAND]...", "", "Arguments:",
    "  [COMMAND]...  Print help for the subcommand(s)"]

end DriverExtension.CommandLine.Help
