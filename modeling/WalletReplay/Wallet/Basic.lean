import WalletReplay.Checkpoint.Basic
import WalletReplay.Text.Quoted

/-!
# Wallets

A wallet has an identifier, which is its owner's, and a sync state, which the scheduler and the
wallet's owner share. Two wallets may carry the same identifier; they are then equal to all who ask,
but each keeps its own sync state.

Every change to the sync state marks it as not yet saved, the percentage of a running download
excepted, which is not saved at all.
-/

namespace WalletReplay

/-- The identifier that a wallet's owner gave it. -/
abbrev WalletId := String

/-- The number of an accepted replay task. No two tasks have the same. -/
abbrev TaskId := Nat

/-- What a busy wallet is busy with. -/
inductive BusyLabel where
  /-- Its replay is queued. -/
  | waiting
  /-- Its replay is downloading blocks. -/
  | downloading
  deriving DecidableEq, Repr

namespace BusyLabel

/-- The key of the message that says why the wallet is busy. -/
def reasonKey : BusyLabel → String
  | waiting => "wallet-busy-reason-waiting"
  | downloading => "wallet-busy-reason-downloading"

/-- The key of the message that says what the wallet is doing. -/
def verbKey : BusyLabel → String
  | waiting => "wallet-busy-verb-waiting"
  | downloading => "wallet-busy-verb-downloading"

end BusyLabel

/-- The sync state of a wallet. -/
structure SyncState where
  /-- Whether a replay of the wallet is queued or under way. -/
  busy : Bool := false
  /-- What it is busy with. -/
  label : Option BusyLabel := none
  /-- The task that replays it. -/
  task : Option TaskId := none
  /-- How far the wallet has seen the chain. -/
  seenHeight : Option Height := none
  /-- The hash of the block it has seen last, if known. -/
  seenHash : Option BlockHash := none
  /-- How much of the running download is done. -/
  percent : Option Nat := none
  /-- Whether there are changes that have not been saved. -/
  dirty : Bool := false
  deriving DecidableEq

namespace SyncState

/-- A change, which is then not yet saved. -/
def change (s : SyncState) (f : SyncState → SyncState) : SyncState :=
  { f s with dirty := true }

/-- The wallet has seen the chain up to a block. -/
def see (s : SyncState) (height : Height) (hash : Option BlockHash) : SyncState :=
  s.change fun s => { s with seenHeight := some height, seenHash := hash }

/-- The owner has saved the state. -/
def save (s : SyncState) : SyncState :=
  { s with dirty := false }

/-- How much of the running download is done, which is not saved. -/
def setPercent (s : SyncState) (percent : Option Nat) : SyncState :=
  { s with percent := percent }

/-- A task has claimed the wallet. Should the program end before the task completes, the wallet
resumes from the height that the task starts at. -/
def claim (s : SyncState) (task : TaskId) (start : Height) : SyncState :=
  s.change fun s =>
    { s with
      busy := true
      label := some .waiting
      task := some task
      seenHeight := some start
      seenHash := none }

/-- The wallet's task has started to download. -/
def startDownload (s : SyncState) : SyncState :=
  s.change fun s => { s with label := some .downloading }

/-- The wallet's task has completed. -/
def release (s : SyncState) : SyncState :=
  s.change fun s => { s with busy := false, label := none, task := none, percent := none }

end SyncState

/-- A wallet. The key tells wallets apart that carry the same identifier. -/
structure Wallet where
  /-- How many wallets were made before it. -/
  key : Nat
  /-- Its identifier. -/
  id : WalletId
  deriving DecidableEq, Repr

/-- A wallet as a diagnostic shows it: its identifier in quotes, and not its sync state. -/
def Wallet.describe (w : Wallet) : String :=
  "TrackedWallet \x7b id: WalletId(" ++ String.ofList (Text.quote w.id.toList) ++ "), .. \x7d"

/-- The sync state of every wallet made so far, in the order in which they were made. -/
structure Ledger where
  /-- The states. -/
  states : List SyncState := []

namespace Ledger

/-- How many wallets were made. -/
def size (l : Ledger) : Nat :=
  l.states.length

/-- The sync state of a wallet. -/
def get (l : Ledger) (w : Wallet) : SyncState :=
  (l.states[w.key]?).getD {}

/-- Changes the sync state of one wallet. -/
def modify (l : Ledger) (w : Wallet) (f : SyncState → SyncState) : Ledger :=
  ⟨l.states.modify w.key f⟩

/-- Changes the sync states of several wallets, one after another. -/
def modifyAll (l : Ledger) (ws : List Wallet) (f : SyncState → SyncState) : Ledger :=
  ws.foldl (fun l w => l.modify w f) l

/-- A new wallet with this sync state. -/
def add (l : Ledger) (id : WalletId) (s : SyncState) : Wallet × Ledger :=
  (⟨l.size, id⟩, ⟨l.states ++ [s]⟩)

@[simp]
theorem size_modify (l : Ledger) (w : Wallet) (f : SyncState → SyncState) :
    (l.modify w f).size = l.size := by
  simp [size, modify]

theorem get_modify_self {l : Ledger} {w : Wallet} (h : w.key < l.size) (f : SyncState → SyncState) :
    (l.modify w f).get w = f (l.get w) := by
  simp only [size] at h
  simp [get, modify, h]

theorem get_modify_of_ne {l : Ledger} {v w : Wallet} (h : v.key ≠ w.key)
    (f : SyncState → SyncState) : (l.modify w f).get v = l.get v := by
  simp [get, modify, Ne.symm h]

end Ledger

end WalletReplay
