import WalletReplay.Scheduler.Driver

/-!
# Letting go of a scheduler

An owner who lets go of a scheduler gives up the calls in progress under names and the driver that
could be waited for. While that driver is given up, the drivers that were summoned take their turns.

Any driver that has not ended keeps the scheduler. Once nothing keeps it the queue is gone, while
the download goes on: when it has caught up, there is no task left to complete.
-/

namespace WalletReplay.Scheduler

/-- Gives up the calls that have names. -/
def cancelNamed (s : Scheduler) : Scheduler :=
  s.calls.entries.foldl
    (fun s e =>
      match e.1 with
      | .named _ => (s.cancel e.1).1
      | .driver _ => s)
    s

/-- Gives a driver up where it stands. A wake-up that it was told of is passed on. -/
def giveUpDriver (s : Scheduler) (d : Nat) : Scheduler :=
  let s := (s.cancel (.driver d)).1
  let s : Scheduler := { s with turns := s.turns.erase d }
  match s.drivers[d]? with
  | none => s
  | some (.waiting _ _ told) => (s.setDriver d .ended).forgo d told
  | some _ => s.setDriver d .ended

/-- Lets go of a scheduler, of whose drivers one can be waited for. -/
def release (s : Scheduler) : Option Nat → Scheduler
  | none => s.cancelNamed
  | some d => (s.cancelNamed.giveUpDriver d).runTurns s.pollBound

/-- Whether a driver keeps the scheduler. -/
def isKept (s : Scheduler) : Bool :=
  s.drivers.any (· ≠ .ended)

/-- The download that runs has caught up after the scheduler was let go of: whether there was
one. -/
def finishReleased (s : Scheduler) : Scheduler × Bool :=
  if s.isKept then s.finishDownload else s.finishOrphanedDownload

end WalletReplay.Scheduler
