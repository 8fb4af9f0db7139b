import WalletReplay.Table
import WalletReplay.Wallet.Registry

/-!
# Wallets and their owners

Owners hold wallets under names. A name can be given to a new wallet, which takes it from the wallet
that had it; a wallet is alive as long as a name or something else holds it.
-/

namespace WalletReplay

/-- The wallets made so far, the names under which owners hold them, and the registry. -/
structure Roster where
  /-- The sync state of every wallet. -/
  ledger : Ledger := {}
  /-- The wallets that owners hold. -/
  handles : Table String Wallet := {}
  /-- The wallets seen and the listeners. -/
  registry : Registry := {}

namespace Roster

/-- Whether an owner holds the wallet. -/
def isHeld (r : Roster) (w : Wallet) : Bool :=
  r.handles.any fun _ v => v = w

/-- Whether a wallet is alive, where `elsewhere` tells what else holds it. -/
def isAlive (r : Roster) (elsewhere : Wallet → Bool) (w : Wallet) : Bool :=
  r.isHeld w || elsewhere w

/-- Makes a new wallet and holds it under a name. -/
def make (r : Roster) (name : String) (id : WalletId) (s : SyncState) : Roster :=
  let (w, ledger) := r.ledger.add id s
  { r with ledger, handles := r.handles.set name w }

/-- Lets go of the wallet under a name. -/
def drop (r : Roster) (name : String) : Roster :=
  { r with handles := r.handles.erase name }

/-- Changes the sync state of a wallet. -/
def modify (r : Roster) (w : Wallet) (f : SyncState → SyncState) : Roster :=
  { r with ledger := r.ledger.modify w f }

/-- Changes the sync states of several wallets. -/
def modifyAll (r : Roster) (ws : List Wallet) (f : SyncState → SyncState) : Roster :=
  { r with ledger := r.ledger.modifyAll ws f }

/-- Tracks a wallet. -/
def track (r : Roster) (elsewhere : Wallet → Bool) (w : Wallet) : Roster :=
  { r with registry := r.registry.track (r.isAlive elsewhere) w }

/-- Adds a listener. -/
def listen (r : Roster) (listener : String) : Roster :=
  { r with registry := r.registry.listen listener }

/-- How many tracked wallets are alive. -/
def trackedCount (r : Roster) (elsewhere : Wallet → Bool) : Nat :=
  r.registry.size (r.isAlive elsewhere)

/-- Whether a tracked wallet that is alive is busy. -/
def anyBusy (r : Roster) (elsewhere : Wallet → Bool) : Bool :=
  r.registry.anyBusy (r.isAlive elsewhere) r.ledger

/-- What the listeners hear when they are told: each, in order, whether a wallet is busy. -/
def announcement (r : Roster) (elsewhere : Wallet → Bool) : List (String × Bool) :=
  r.registry.listeners.map fun listener => (listener, r.anyBusy elsewhere)

end Roster

end WalletReplay
