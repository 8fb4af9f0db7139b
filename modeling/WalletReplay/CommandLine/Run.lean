import WalletReplay.Checkpoint.File
import WalletReplay.CommandLine.Outcome
import WalletReplay.CommandLine.Reader
import WalletReplay.Disk.Basic
import WalletReplay.Settings.Example
import WalletReplay.Settings.Load

/-!
# Running the program

A request is read from the command line; then the settings are loaded, whatever the request; then
the command is run.

The data directory is `.rewind` in the home directory, unless another is given. The settings file is
`rewind.toml` in the data directory, unless another is given. It may be missing, unless it is given.
-/

namespace WalletReplay.CommandLine

/-- What surrounds the program. -/
structure Surroundings where
  /-- The home directory. -/
  home : String
  /-- The environment variables. -/
  bindings : List (String × String)

/-- The data directory. -/
def Request.directory (r : Request) (around : Surroundings) : String :=
  r.datadir.getD (Path.join around.home ".rewind")

/-- The path of the settings file. -/
def Request.settingsPath (r : Request) (around : Surroundings) : String :=
  Path.join (r.directory around) (r.config.getD "rewind.toml")

/-- The file that settings are read from. If no file stands at the path, one whose name goes on with
the extension `toml` is taken. -/
def settingsFile [Monad m] (disk : Disk m) (path : String) : m FileState := do
  let state ← disk.look path
  if state.isFile then return state
  else
    match Path.withExtension path "toml" with
    | some path => disk.look path
    | none => return .missing

/-- The settings that a request is served with. -/
def Request.settings? [Monad m] (r : Request) (disk : Disk m) (around : Surroundings) :
    m (Option Settings) := do
  let path := r.settingsPath around
  if r.config.isSome || (← disk.look path).isThere then
    return Settings.load? (some (← settingsFile disk path)) around.bindings
  else return Settings.load? none around.bindings

/-- What is shown about the checkpoint that a replay starts from. -/
def startLine (c : Checkpoint) : String :=
  if c.isGenesis then "A replay to this point starts from genesis."
  else
    "A replay to this point starts from checkpoint " ++ toString c.height.val
      ++ " (time " ++ String.ofList (Text.Decimal.ofInt c.time.seconds)
      ++ ", hash " ++ String.ofList ((c.hash.map BlockHash.toHex).getD []) ++ ")."

/-- What is shown about a collection that was loaded from a path, and what it is good for. -/
def showStart (path : String) (aim : Aim) (cs : Checkpoints) : Outcome :=
  .ofLines ["Loaded " ++ toString cs.size ++ " checkpoints from " ++ path,
    startLine (cs.resolve aim.target)]

/-- Shows where a replay would start, given what stands at the path of the checkpoint file. -/
def showCheckpoint (path : String) (file : FileState) (aim : Aim) (strict : Bool) : Outcome :=
  if strict then
    match Checkpoints.load file with
    | .ok cs => showStart path aim cs
    | .error e => .failed (.ofCheckpointError e)
  else showStart path aim (Checkpoints.loadOrEmpty file)

/-- What is shown once the example was written, or could not be. -/
def exampleOutcome (path : String) : Except WriteFault Unit → Outcome
  | .ok () => .ofLines ["Example config written to " ++ path]
  | .error fault => .failed {
      kind := .generic
      cause? := some
        ("Could not write the example config to " ++ path ++ ": " ++ fault.message) }

/-- Writes the example settings. -/
def writeExample [Monad m] (disk : Disk m) (output : String) (force : Bool) : m Outcome := do
  if output = "-" then return .ofLines [Settings.exampleText]
  else return exampleOutcome output (← disk.write output force Settings.exampleText)

/-- Runs a command. -/
def Command.run [Monad m] (disk : Disk m) (settings : Settings) (directory : String) :
    Command → m Outcome
  | .exampleConfig output force => writeExample disk output force
  | .checkpoint aim strict => do
    let path := settings.checkpointsPathIn directory
    return showCheckpoint path (← disk.look path) aim strict

/-- Serves a request. -/
def Request.run [Monad m] (r : Request) (disk : Disk m) (around : Surroundings) : m Outcome := do
  match ← r.settings? disk around with
  | none => return .unconfigured
  | some settings => r.command.run disk settings (r.directory around)

/-- Runs the program with the arguments of a command line. -/
def run [Monad m] (disk : Disk m) (around : Surroundings) (args : List String) : m Outcome :=
  match Request.read args with
  | .ok request => request.run disk around
  | .error refusal => return .ofRefusal refusal

end WalletReplay.CommandLine
