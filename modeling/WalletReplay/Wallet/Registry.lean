import WalletReplay.Wallet.Basic

/-!
# The registry of wallets

The registry remembers the wallets that the scheduler has seen, so that it can tell whether any of
them is busy, and the listeners who want to be told. It does not keep a wallet alive: a wallet that
nobody holds any more is forgotten. Of several live wallets with the same identifier it remembers
the one it saw first.

Which wallets are alive is not the registry's to know; its functions take it as a test.
-/

namespace WalletReplay

/-- The wallets seen and the listeners, both in the order in which they came. -/
structure Registry where
  /-- The wallets seen, some of them perhaps no longer alive. -/
  tracked : List Wallet := []
  /-- The names of the listeners. -/
  listeners : List String := []

namespace Registry

/-- The tracked wallets that are alive. -/
def living (r : Registry) (alive : Wallet → Bool) : List Wallet :=
  r.tracked.filter alive

/-- Tracks a wallet, unless one with its identifier is tracked and alive. -/
def track (r : Registry) (alive : Wallet → Bool) (w : Wallet) : Registry :=
  let living := r.living alive
  { r with tracked := if living.any (·.id = w.id) then living else living ++ [w] }

/-- Tracks several wallets, one after another. -/
def trackAll (r : Registry) (alive : Wallet → Bool) (ws : List Wallet) : Registry :=
  ws.foldl (fun r w => r.track alive w) r

/-- Adds a listener. -/
def listen (r : Registry) (listener : String) : Registry :=
  { r with listeners := r.listeners ++ [listener] }

/-- How many tracked wallets are alive. -/
def size (r : Registry) (alive : Wallet → Bool) : Nat :=
  (r.living alive).length

/-- Whether a tracked wallet that is alive is busy. -/
def anyBusy (r : Registry) (alive : Wallet → Bool) (l : Ledger) : Bool :=
  (r.living alive).any fun w => (l.get w).busy

end Registry

end WalletReplay
