import WalletReplay.Path
import WalletReplay.Queue

/-!
# Settings

Five settings in three sections. Those that are not set have defaults, which may differ from one
version to the next; that a setting is not set is therefore kept apart from its being set to the
default. Only the network has to be known, and is the main network unless it is set.

Times are milliseconds.
-/

namespace WalletReplay

/-- The networks that a chain can belong to. -/
inductive NetworkKind where
  /-- The main network. -/
  | main
  /-- The test network. -/
  | test
  /-- A network for regression tests. -/
  | regtest
  deriving DecidableEq, Repr

namespace NetworkKind

/-- The name of a network. -/
def name : NetworkKind → String
  | main => "main"
  | test => "test"
  | regtest => "regtest"

/-- The network of that name. -/
def ofName? (s : String) : Option NetworkKind :=
  if s = "main" then some main
  else if s = "test" then some test
  else if s = "regtest" then some regtest
  else none

/-- The checkpoint file of a network, unless another is set. -/
def checkpointsFile (n : NetworkKind) : String :=
  "checkpoints-" ++ n.name ++ ".txt"

end NetworkKind

/-- The settings. -/
structure Settings where
  /-- The path of the checkpoint file. -/
  checkpointsPath : Option String := none
  /-- The network. -/
  network : NetworkKind := .main
  /-- The time between two ticks. -/
  tickInterval : Option Nat := none
  /-- How many failed attempts are followed by another. -/
  maxRetries : Option Nat := none
  /-- How much later the next attempt may begin. -/
  retryBackoff : Option Nat := none
  deriving DecidableEq, Repr

namespace Settings

/-- The time between two ticks: 200 unless set, and never zero. -/
def interval (s : Settings) : Nat :=
  max 1 (s.tickInterval.getD 200)

/-- The time before the next attempt: none unless set. -/
def backoff (s : Settings) : Nat :=
  s.retryBackoff.getD 0

/-- What is done about failed attempts. -/
def retryPolicy (s : Settings) : RetryPolicy :=
  { maxRetries := s.maxRetries, backoff := s.backoff }

/-- The path of the checkpoint file, seen from the data directory. -/
def checkpointsPathIn (s : Settings) (directory : String) : String :=
  Path.join directory (s.checkpointsPath.getD s.network.checkpointsFile)

end Settings

end WalletReplay
