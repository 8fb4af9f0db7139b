import WalletReplay.Checkpoint.Resolve
import WalletReplay.Wallet.Basic

/-!
# Replay requests and tasks

A caller requests a replay of some wallets from a target. An accepted request becomes a task: it
gets a number, and its target is resolved to the checkpoint that it starts from, once and for all.
-/

namespace WalletReplay

/-- A request to replay some wallets. -/
structure Request where
  /-- The wallets, in the order in which they were named. -/
  wallets : List Wallet
  /-- Where the replay should begin. -/
  target : Target

/-- A request that was accepted. -/
structure Task where
  /-- Its number. -/
  id : TaskId
  /-- The wallets it replays. -/
  wallets : List Wallet
  /-- Where the replay should begin. -/
  target : Target
  /-- The checkpoint it starts from. -/
  start : Checkpoint
  deriving DecidableEq

namespace Request

/-- A request is malformed if it names no wallet, or two with the same identifier. -/
def isMalformed (r : Request) : Bool :=
  r.wallets.isEmpty || !decide ((r.wallets.map (·.id)).Nodup)

/-- The task that a request becomes. -/
def toTask (r : Request) (id : TaskId) (cs : Checkpoints) : Task :=
  { id, wallets := r.wallets, target := r.target, start := cs.resolve r.target }

end Request

/-- Whether the task replays a wallet with this identifier. -/
def Task.includes (t : Task) (id : WalletId) : Bool :=
  t.wallets.any (·.id = id)

end WalletReplay
