import WalletReplay.Chain.Client
import WalletReplay.Task

/-!
# Calls and where they stand

A tick, a regular download and a shutdown are calls that do not run through at once: each waits in
line for the chain and then makes calls to the chain client, one after another, and others may act
whenever it waits. A call is therefore a value that says where it stands: not begun, waiting for the
chain with an errand, or holding the chain and waiting for the client to answer one call.

What a call has taken out of the chain's place, and would be lost with it, it carries along: an old
stack that is being taken down, and the parts of a new one that is not complete.
-/

namespace WalletReplay

/-- The calls there are. -/
inductive CallKind where
  /-- Retires a completed task and starts the next. -/
  | tick
  /-- Resumes an ordinary download on the chain there is. -/
  | regular
  /-- Ends all work and takes the chain down. -/
  | shutdown
  deriving DecidableEq, Repr

/-- Who made a call: an owner, who gave it a name, or a driver, which makes ticks only. -/
inductive Caller where
  /-- The call of that name. -/
  | named (name : String)
  /-- The tick of that driver. -/
  | driver (index : Nat)
  deriving DecidableEq, Repr

/-- What a call wants the chain for. -/
inductive Errand where
  /-- An attempt at a task. -/
  | replay (task : Task)
  /-- An ordinary download. -/
  | regular
  /-- Taking the chain down for good. -/
  | shutdown
  deriving DecidableEq

/-- How far an attempt at a task has come, by the client call that it waits for. -/
inductive Stage where
  /-- The network of the old stack is being stopped. -/
  | stopping (old : Stack)
  /-- The store of the old stack is being closed. -/
  | closing (old : Stack)
  /-- A new store is being created. -/
  | creating
  /-- A chain is being built on the new store. -/
  | building (store : Store)
  /-- A network is being built for the new chain. -/
  | connecting (store : Store) (chain : Chain)
  /-- The network of that number, on the new stack, is being started. -/
  | starting (network : Nat)
  /-- The network of that number is being asked to download. -/
  | resuming (network : Nat)
  deriving DecidableEq

/-- What a call that holds the chain is waiting for. -/
inductive Work where
  /-- A stage of an attempt at a task, with the height that the chain had when the attempt began. -/
  | replay (task : Task) (floor : Option Height) (stage : Stage)
  /-- For an ordinary download, the network of that number is being started. -/
  | starting (network : Nat)
  /-- For an ordinary download, the network of that number is being asked to download. -/
  | resuming (network : Nat)
  /-- For a shutdown, the network of the stack is being stopped. -/
  | stopping (stack : Stack)
  /-- For a shutdown, the store of the stack is being closed. -/
  | closing (stack : Stack)
  deriving DecidableEq

/-- A call, by where it stands. -/
inductive Call where
  /-- It has not begun. -/
  | fresh (kind : CallKind)
  /-- It waits for the chain. -/
  | waiting (errand : Errand)
  /-- It holds the chain and waits for the client. -/
  | working (work : Work)
  deriving DecidableEq

/-- The client call that a stage waits for. -/
def Stage.call (task : Task) : Stage → ClientCall
  | stopping old => .stopNetwork old.network.number
  | closing old => .closeStore old.store.number
  | creating => .createStore task.start.height
  | building _ => .buildChain (task.wallets.map (·.id))
  | connecting _ _ => .buildNetwork
  | starting network => .startNetwork network
  | resuming network => .resumeDownload network

/-- The client call that is waited for. -/
def Work.call : Work → ClientCall
  | replay task _ stage => stage.call task
  | starting network => .startNetwork network
  | resuming network => .resumeDownload network
  | stopping stack => .stopNetwork stack.network.number
  | closing stack => .closeStore stack.store.number

/-- The task that an errand is about. -/
def Errand.task? : Errand → Option Task
  | replay task => some task
  | regular | shutdown => none

/-- The task that work is about. -/
def Work.task? : Work → Option Task
  | replay task _ _ => some task
  | _ => none

/-- The task that a call has dispatched and not finished with. -/
def Call.task? : Call → Option Task
  | fresh _ => none
  | waiting errand => errand.task?
  | working work => work.task?

/-- Whether a call keeps a wallet alive. -/
def Call.holds (c : Call) (w : Wallet) : Bool :=
  match c.task? with
  | some task => task.wallets.contains w
  | none => false

/-- Why a call failed. -/
inductive CallError where
  /-- The client failed at a step. -/
  | client (step : ClientStep)
  /-- There is no chain to download into. -/
  | noChain
  /-- The scheduler was shut down. -/
  | shutDown
  deriving DecidableEq, Repr

namespace CallError

/-- The step that failed. -/
def step? : CallError → Option ClientStep
  | client step => some step
  | noChain | shutDown => none

/-- The wording of an error. -/
def message : CallError → String
  | client step => "Failed " ++ step.description ++ ": " ++ step.report
  | noChain => "No chain has been built yet"
  | shutDown => "The replay scheduler has shut down"

/-- The errors behind an error, the nearest first, in words. -/
def causes : CallError → List String
  | client step => [step.report, step.failure]
  | noChain | shutDown => []

end CallError

end WalletReplay
