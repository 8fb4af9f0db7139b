import WalletReplay.Settings.Basic

/-!
# The example settings file

A file that holds all settings with their defaults and says what each is for. Settings that need not
be set are commented out; one without a default is shown as `UNSET`.
-/

namespace WalletReplay.Settings

/-- A setting as the example shows it. -/
structure ExampleField where
  /-- Its name. -/
  name : String
  /-- What it is for, line by line. -/
  about : List String
  /-- Its default, as it is written in the file. -/
  default? : Option String
  /-- Whether it has to be set. -/
  required : Bool := false

/-- A section as the example shows it. -/
structure ExampleSection where
  /-- Its name. -/
  name : String
  /-- What it is for, line by line. -/
  about : List String
  /-- Its settings. -/
  fields : List ExampleField

/-- A text as it is written in the file. -/
def quoted (s : String) : String :=
  "\"" ++ s ++ "\""

/-- The section on checkpoints. -/
def checkpointsExample (s : Settings) : ExampleSection where
  name := "checkpoints"
  about := ["Where checkpoints used to seed replays are loaded from."]
  fields := [
    { name := "path"
      about := [
        "Path to the checkpoint file.",
        "",
        "This can be either an absolute path, or a path relative to the data directory.",
        "Each line of the file holds a block height, its Unix timestamp, and its hash in",
        "hex, separated by whitespace. If the file cannot be read, every replay starts from",
        "genesis."]
      default? := some (quoted (s.checkpointsPath.getD s.network.checkpointsFile)) }]

/-- The section on consensus. -/
def consensusExample (s : Settings) : ExampleSection where
  name := "consensus"
  about := [
    "Rewind's understanding of the consensus rules.",
    "",
    "This MUST match the network of the chain client that replays are driven through."]
  fields := [
    { name := "network"
      about := ["Network type."]
      default? := some (quoted s.network.name)
      required := true }]

/-- The section on replays. -/
def replayExample (s : Settings) : ExampleSection where
  name := "replay"
  about := ["Settings for how replays are scheduled."]
  fields := [
    { name := "tick_interval_ms"
      about := [
        "How often, in milliseconds, the scheduler checks for replays to start or retire.",
        "",
        "The scheduler is also woken immediately whenever a replay is offered or completes."]
      default? := some (toString s.interval) },
    { name := "max_retries"
      about := [
        "The number of times a failed replay is retried before it is left stalled.",
        "",
        "A stalled replay keeps its wallets busy and blocks the replays queued behind it",
        "until it completes or Rewind is restarted. If unset, failed replays are retried",
        "indefinitely."]
      default? := s.maxRetries.map toString },
    { name := "retry_backoff_ms"
      about := ["How long, in milliseconds, to wait before retrying a failed replay."]
      default? := some (toString s.backoff) }]

/-- What the example says about itself. -/
def exampleIntroduction : List String := [
  "Default configuration for Rewind.",
  "",
  "This file is generated as an example using Rewind's current defaults. It can",
  "be used as a skeleton for custom configs.",
  "",
  "Fields that are required to be set are uncommented, and set to an example",
  "value. Every other field is commented out, and set to the current default",
  "value that Rewind will use for it (or `UNSET` if the field has no default).",
  "",
  "Every field can also be set with an environment variable named after its",
  "section and field, e.g. `REWIND_REPLAY__MAX_RETRIES`."]

/-- A line of a comment. -/
def commentLine (line : String) : String :=
  if line = "" then "#" else "# " ++ line

/-- The lines of a setting. -/
def ExampleField.lines (f : ExampleField) : List String :=
  f.about.map commentLine ++
    [(if f.required then "" else "#") ++ f.name ++ " = " ++ f.default?.getD "UNSET", ""]

/-- The lines of a section. -/
def ExampleSection.lines (s : ExampleSection) : List String :=
  ["", "#"] ++ s.about.map commentLine ++ ["#", "[" ++ s.name ++ "]", ""]
    ++ s.fields.flatMap ExampleField.lines

/-- The lines of the example. -/
def exampleLines (s : Settings) : List String :=
  exampleIntroduction.map commentLine ++
    [s.checkpointsExample, s.consensusExample, s.replayExample].flatMap ExampleSection.lines

/-- The example, with the defaults of settings that are not set. -/
def exampleText : String :=
  String.join ((exampleLines {}).map (· ++ "\n"))

end WalletReplay.Settings
