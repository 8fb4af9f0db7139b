import WalletReplay.CommandLine.Refusal

/-!
# Pages of help
-/

namespace WalletReplay.CommandLine

/-- What the program is called, and its version. -/
def versionLine : String := "rewind 0.1.0"

namespace HelpPage

/-- How the page on the program begins. -/
def opening : List String := [
  "Coordinates wallet replays against a chain client, one resynchronization at a time.",
  "",
  "Usage: rewind [OPTIONS] <COMMAND>",
  "",
  "Commands:",
  "  example-config  Generate an example config file with the current defaults",
  "  checkpoint      Show the checkpoint a replay would start from",
  "  help            Print this message or the help of the given subcommand(s)",
  "",
  "Options:"]

/-- The lines of a page. -/
def lines : HelpPage → List String
  | summary => opening ++ [
      "  -h, --help     Print help (see more with '--help')",
      "  -V, --version  Print version",
      "",
      "Options:",
      "  -v, --verbose            Enable verbose logging",
      "  -d, --datadir <DATADIR>  Specify the data directory for the Rewind instance",
      "  -c, --config <CONFIG>    Use the specified config file"]
  | program => opening ++ [
      "  -h, --help",
      "          Print help (see a summary with '-h')",
      "",
      "  -V, --version",
      "          Print version",
      "",
      "Options:",
      "  -v, --verbose",
      "          Enable verbose logging",
      "",
      "  -d, --datadir <DATADIR>",
      "          Specify the data directory for the Rewind instance",
      "",
      "  -c, --config <CONFIG>",
      "          Use the specified config file",
      "          ",
      "          Relative paths are resolved against the data directory."]
  | exampleConfig => [
      "Generate an example config file with the current defaults",
      "",
      "Usage: rewind example-config [OPTIONS]",
      "",
      "Options:",
      "  -o, --output <PATH>  Where to write the example config, or `-` to print it [default: -]",
      "      --force          Overwrite an existing file",
      "  -h, --help           Print help"]
  | checkpoint => [
      "Show the checkpoint a replay would start from",
      "",
      "Usage: rewind checkpoint [OPTIONS]",
      "",
      "Options:",
      "      --height <HEIGHT>  Replay up to this block height",
      "      --date <DATE>      Replay everything since this RFC 3339 date, e.g. "
        ++ "`2024-06-01T00:00:00Z`",
      "      --strict           Fail if the checkpoint file cannot be used, instead of "
        ++ "replaying from genesis",
      "  -h, --help             Print help"]
  | help => [
      "Print this message or the help of the given subcommand(s)",
      "",
      "Usage: rewind help [COMMAND]...",
      "",
      "Arguments:",
      "  [COMMAND]...  Print help for the subcommand(s)"]

/-- The text of a page. -/
def text (page : HelpPage) : String :=
  String.join (page.lines.map (· ++ "\n"))

end HelpPage

end WalletReplay.CommandLine
