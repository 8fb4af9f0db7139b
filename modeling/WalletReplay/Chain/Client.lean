import WalletReplay.Chain.Stack
import WalletReplay.Progress

/-!
# The chain client

The client is kept in memory. It knows how high its chain is, which listeners its newest network
has, and which download runs, if any. A download ends only when it is told that it has.

Calls fail as they are told to: each entry of the list of failures makes so many calls of its step
fail, and for a step the first entry with a call left to fail is used.
-/

namespace WalletReplay

/-- What is to happen when a download has caught up. -/
inductive Download where
  /-- Nothing: the download belongs to no task. -/
  | regular
  /-- The task is completed. -/
  | replay (task : TaskId)
  deriving DecidableEq, Repr

/-- A listener that shows the progress of downloads in a wallet's sync state. -/
structure ProgressListener where
  /-- The wallet. -/
  wallet : Wallet
  /-- The height at which its task starts. -/
  start : Height
  /-- The height that the chain had before it was rebuilt, if there was one. -/
  floor : Option Height
  deriving DecidableEq

/-- The chain client. -/
structure Client where
  /-- How many calls of which step are still to fail. -/
  failures : List (ClientStep × Nat) := []
  /-- The height of the chain. -/
  bestHeight : Height := .zero
  /-- The listeners of the newest network. -/
  listeners : List ProgressListener := []
  /-- The download that runs. -/
  download : Option Download := none
  /-- How many stores were made. -/
  storeCount : Nat := 0
  /-- How many networks were made. -/
  networkCount : Nat := 0
  /-- How many calls are in progress. -/
  inFlight : Nat := 0
  /-- The most calls that ever were in progress at once. -/
  maxInFlight : Nat := 0

namespace Client

/-- The failures left when a call of this step uses one up, if there is one for it. -/
def useFailure (step : ClientStep) :
    List (ClientStep × Nat) → Option (List (ClientStep × Nat))
  | [] => none
  | (s, times) :: rest =>
    if s = step ∧ 0 < times then some ((s, times - 1) :: rest)
    else (useFailure step rest).map ((s, times) :: ·)

/-- A call begins. -/
def enter (c : Client) : Client :=
  { c with inFlight := c.inFlight + 1, maxInFlight := max c.maxInFlight (c.inFlight + 1) }

/-- A call ends, be it that it is given up. -/
def leave (c : Client) : Client :=
  { c with inFlight := c.inFlight - 1 }

/-- A call of this step is answered: whether it succeeds. -/
def answer (c : Client) (step : ClientStep) : Client × Bool :=
  match useFailure step c.failures with
  | some failures => ({ c with failures }, false)
  | none => (c, true)

/-- Makes so many calls of a step fail. -/
def inject (c : Client) (step : ClientStep) (times : Nat) : Client :=
  { c with failures := c.failures ++ [(step, times)] }

/-- A new store that begins at a checkpoint, which is then the height of the chain. -/
def newStore (c : Client) (base : Checkpoint) : Store × Client :=
  (⟨c.storeCount, base⟩, { c with storeCount := c.storeCount + 1, bestHeight := base.height })

/-- A new network, not running, with these listeners in place of those of the one before. -/
def newNetwork (c : Client) (listeners : List ProgressListener) : Network × Client :=
  (⟨c.networkCount, false⟩, { c with networkCount := c.networkCount + 1, listeners })

/-- The stack and the client as if it had synced to a height before. -/
def synced (height : Height) : Stack × Client :=
  let (store, c) := (Client.leave (Client.enter {})).newStore .genesis
  let (network, c) := c.newNetwork []
  (⟨store, ⟨[]⟩, network⟩, { c with bestHeight := height })

end Client

end WalletReplay
