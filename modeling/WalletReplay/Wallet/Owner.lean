import WalletReplay.Wallet.Roster

/-!
# What owners do

Owners make wallets, let go of them, and keep their sync states up to date. They name a wallet by
the name under which they hold it; under a name that holds none, nothing happens.
-/

namespace WalletReplay

/-- What an owner does. -/
inductive OwnerAction where
  /-- Makes a wallet and holds it under a name. -/
  | make (handle : String) (id : WalletId) (state : SyncState)
  /-- Lets go of a wallet. -/
  | drop (handle : String)
  /-- Records up to which block a wallet has seen the chain. -/
  | see (handle : String) (height : Height) (hash : Option BlockHash)
  /-- Saves the sync state of a wallet. -/
  | save (handle : String)

namespace Roster

/-- Changes the sync state of the wallet under a name. -/
def modifyHeld (r : Roster) (handle : String) (f : SyncState → SyncState) : Roster :=
  match r.handles.get? handle with
  | some w => r.modify w f
  | none => r

/-- What an owner's action makes of the roster. -/
def own (r : Roster) : OwnerAction → Roster
  | .make handle id state => r.make handle id state
  | .drop handle => r.drop handle
  | .see handle height hash => r.modifyHeld handle (·.see height hash)
  | .save handle => r.modifyHeld handle SyncState.save

end Roster

end WalletReplay
