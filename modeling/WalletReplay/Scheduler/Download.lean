import WalletReplay.Scheduler.Offer

/-!
# What a download reports

The listeners of the newest network show progress in the sync states of their wallets, and show
nothing any more once the download has caught up. Then the task that the download belongs to, if it
belongs to one, is completed.
-/

namespace WalletReplay.Scheduler

/-- Blocks up to a height have arrived, and so many are left. -/
def progress (s : Scheduler) (height : Height) (left : BlockCount) : Scheduler :=
  let ledger := s.client.listeners.foldl
    (fun l p => l.modify p.wallet
      (·.setPercent (some (percentComplete p.start height left p.floor))))
    s.roster.ledger
  { s with
    client := { s.client with bestHeight := height }
    roster := { s.roster with ledger } }

/-- The progress listeners show nothing any more. -/
def clearPercents (s : Scheduler) : Scheduler :=
  { s with
    roster := s.roster.modifyAll (s.client.listeners.map (·.wallet)) (·.setPercent none) }

/-- The download that runs has caught up: whether there was one. -/
def finishDownload (s : Scheduler) : Scheduler × Bool :=
  match s.client.download with
  | none => (s, false)
  | some download =>
    let s := { s with client := { s.client with download := none } }.clearPercents
    match download with
    | .regular => (s, true)
    | .replay task => ((s.notifyCompleted task).1, true)

/-- The download that runs has caught up after the scheduler is gone, with its queue and all calls
in progress: whether there was one. -/
def finishOrphanedDownload (s : Scheduler) : Scheduler × Bool :=
  let s := { s with queue := {}, calls := {}, line := [] }
  match s.client.download with
  | none => (s, false)
  | some _ => ({ s with client := { s.client with download := none } }.clearPercents, true)

end WalletReplay.Scheduler
