import WalletReplay.Scheduler.State

/-!
# Offering requests and completing tasks

An offer is accepted if it names wallets, none of them twice, and none that a task in line claims.
Accepting it claims the wallets; completing the task releases them again. Both are done at once, so
nobody sees them half done, and both tell the busy listeners if a wallet has become busy or has
ceased to be.
-/

namespace WalletReplay.Scheduler

/-- Whether a request is accepted now. -/
def accepts (s : Scheduler) (request : Request) : Bool :=
  !request.isMalformed && request.wallets.all fun w => (s.queue.claimant? w.id).isNone

/-- Puts a task in line and claims its wallets. -/
def enroll (s : Scheduler) (task : Task) : Scheduler :=
  let flips := task.wallets.any fun w => !(s.roster.ledger.get w).busy
  let s := { s with queue := s.queue.push task, acceptedCount := s.acceptedCount + 1 }
  let registry := s.roster.registry.trackAll (s.roster.isAlive s.holdsWallet) task.wallets
  let ledger := s.roster.ledger.modifyAll task.wallets (·.claim task.id task.start.height)
  let s := { s with roster := { s.roster with registry, ledger } }
  let s := s.record [.accepted task.id]
  let s := if flips then s.announce else s
  s.wakeOne

/-- Offers a request: the task that it becomes, if it is accepted. -/
def offer (s : Scheduler) (request : Request) : Scheduler × Option TaskId :=
  if s.accepts request then
    (s.enroll (request.toTask s.acceptedCount s.checkpoints), some s.acceptedCount)
  else (s, none)

/-- Releases the wallets of a task whose completion has begun. -/
def complete (s : Scheduler) (task : Task) : Scheduler :=
  let flips := task.wallets.any fun w => (s.roster.ledger.get w).busy
  let s := { s with roster := s.roster.modifyAll task.wallets SyncState.release }
  let s := s.record [.completed task.id]
  let s := if flips then s.announce else s
  let s := { s with queue := (s.queue.finishCompletion task.id).1 }
  s.wakeOne

/-- Reports that the download of a task has caught up: whether the report is accepted. -/
def notifyCompleted (s : Scheduler) (id : TaskId) : Scheduler × Bool :=
  match s.queue.beginCompletion id with
  | (_, none) => (s, false)
  | (queue, some task) => (complete { s with queue } task, true)

end WalletReplay.Scheduler
