import ProgramConnector.Command.Arguments

/-!
# Help

The texts that explain the program and its subcommands.
-/

namespace ProgramConnector.Command

/-- The name of the program. -/
def programName : String := "ndc-promptql-programs"

/-- The version of the program. -/
def programVersion : String := "0.1.0"

/-- What a topic is about, in one line. -/
def Topic.about : Topic → String
  | .program => "Create TS Lambda functions from program (automation) artifact files"
  | .update => "Generate/Update the TS Lambda functions from program artifact files"
  | .upgrade => "Upgrade the connector configuration to the current version"
  | .help => "Print this message or the help of the given subcommand(s)"

/-- The usage line and the lists of a topic. -/
def Topic.details : Topic → List String
  | .program => [
    "Usage: " ++ programName ++ " [OPTIONS] <COMMAND>",
    "",
    "Commands:",
    "  update                 " ++ Topic.about .update,
    "  upgrade-configuration  " ++ Topic.about .upgrade,
    "  help                   " ++ Topic.about .help,
    "",
    "Options:",
    "  -c, --config <CONFIG>  Generator settings file (TOML)",
    "  -r, --root <ROOT>      Connector project directory (overrides the configured root)",
    "  -h, --help             Print help",
    "  -V, --version          Print version"]
  | .update => [
    "Usage: " ++ programName ++ " update [OPTIONS]",
    "",
    "Options:",
    "      --allow-relaxed-types                  Tag every function with @allowrelaxedtypes [env: ALLOW_RELAXED_TYPES=]",
    "  -c, --config <CONFIG>                      Generator settings file (TOML)",
    "      --default-readonly <DEFAULT_READONLY>  Readonly flag for programs without an explicit override [env: DEFAULT_READONLY=] [default: true]",
    "  -r, --root <ROOT>                          Connector project directory (overrides the configured root)",
    "  -h, --help                                 Print help"]
  | .upgrade => [
    "Usage: " ++ programName ++ " upgrade-configuration [OPTIONS]",
    "",
    "Options:",
    "  -c, --config <CONFIG>  Generator settings file (TOML)",
    "  -r, --root <ROOT>      Connector project directory (overrides the configured root)",
    "  -h, --help             Print help"]
  | .help => [
    "Usage: " ++ programName ++ " help [COMMAND]...",
    "",
    "Arguments:",
    "  [COMMAND]...  Print help for the subcommand(s)"]

/-- The help text of a topic. -/
def Topic.text (topic : Topic) : String :=
  "\n".intercalate (topic.about :: "" :: topic.details) ++ "\n"

/-- The line that tells the version. -/
def versionLine : String := programName ++ " " ++ programVersion ++ "\n"

end ProgramConnector.Command
