import WalletReplay.Wallet.Basic

/-!
# The chain that replays are driven through

A chain is built in layers: a block store that begins at a checkpoint, the chain of validated blocks
on top of it with some wallets attached, and the peer network that downloads blocks into it.
Together they are a stack. Seven kinds of call build a stack and take it down, and each of them can
fail.

Stores and networks are numbered by the client that makes them, so that a call can be told from the
same call on another.
-/

namespace WalletReplay

/-- The steps of a replay that the chain client carries out. -/
inductive ClientStep where
  /-- Stopping the network of the old stack. -/
  | stopNetwork
  /-- Closing the store of the old stack. -/
  | closeStore
  /-- Creating a store at a checkpoint. -/
  | createStore
  /-- Building a chain on top of the store. -/
  | buildChain
  /-- Building a network that downloads into the chain. -/
  | buildNetwork
  /-- Starting the network. -/
  | startNetwork
  /-- Asking the network to download. -/
  | resumeDownload
  deriving DecidableEq, Repr

namespace ClientStep

/-- What a step does, in words. -/
def description : ClientStep → String
  | stopNetwork => "stopping the peer network"
  | closeStore => "closing the block store"
  | createStore => "creating the block store"
  | buildChain => "rebuilding the chain"
  | buildNetwork => "rebuilding the peer network"
  | startNetwork => "starting the peer network"
  | resumeDownload => "resuming the block download"

/-- The layer that answers for a step, in words. -/
def layer : ClientStep → String
  | closeStore | createStore => "block store"
  | buildChain => "chain"
  | stopNetwork | buildNetwork | startNetwork | resumeDownload => "peer network"

/-- Why the client fails at a step: it was told to. -/
def failure (s : ClientStep) : String :=
  "injected failure while " ++ s.description

/-- The client's report of a failure: the layer, and why. -/
def report (s : ClientStep) : String :=
  s.layer ++ ": " ++ s.failure

end ClientStep

/-- A block store. -/
structure Store where
  /-- How many stores were made before it. -/
  number : Nat
  /-- The checkpoint at which it begins. -/
  base : Checkpoint
  deriving DecidableEq

/-- The chain of validated blocks. -/
structure Chain where
  /-- The wallets attached to it, in order. -/
  wallets : List WalletId
  deriving DecidableEq

/-- The peer network. -/
structure Network where
  /-- How many networks were made before it. -/
  number : Nat
  /-- Whether it was started and not stopped since. -/
  running : Bool
  deriving DecidableEq

/-- A chain with all its layers. -/
structure Stack where
  /-- The block store. -/
  store : Store
  /-- The validated blocks. -/
  chain : Chain
  /-- The peer network. -/
  network : Network
  deriving DecidableEq

namespace Stack

/-- The stack with its network started or stopped. -/
def setRunning (s : Stack) (running : Bool) : Stack :=
  { s with network := { s.network with running } }

/-- A stack as a diagnostic shows it, given the best height of its chain. -/
def describe (s : Stack) (best : Height) : String :=
  "ChainStack \x7b best_height: BlockHeight(" ++ toString best.val ++ "), network_running: "
    ++ (if s.network.running then "true" else "false") ++ ", .. \x7d"

end Stack

/-- A call to the chain client. -/
inductive ClientCall where
  /-- Make a store that begins at a height. -/
  | createStore (start : Height)
  /-- Build a chain with these wallets attached. -/
  | buildChain (wallets : List WalletId)
  /-- Build a network. -/
  | buildNetwork
  /-- Start the network of that number. -/
  | startNetwork (network : Nat)
  /-- Stop the network of that number, and wait until every peer is disconnected. -/
  | stopNetwork (network : Nat)
  /-- Close the store of that number. -/
  | closeStore (store : Nat)
  /-- Ask the network of that number to download. -/
  | resumeDownload (network : Nat)
  deriving DecidableEq, Repr

/-- The step that a call carries out. -/
def ClientCall.step : ClientCall → ClientStep
  | createStore _ => .createStore
  | buildChain _ => .buildChain
  | buildNetwork => .buildNetwork
  | startNetwork _ => .startNetwork
  | stopNetwork _ => .stopNetwork
  | closeStore _ => .closeStore
  | resumeDownload _ => .resumeDownload

end WalletReplay
