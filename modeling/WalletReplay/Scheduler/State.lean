import WalletReplay.Queue
import WalletReplay.Scheduler.Call
import WalletReplay.Wallet.Roster

/-!
# The scheduler

The state of a scheduler with everything around it: the wallets and their owners, the queue of
tasks, the chain in its place, the calls in progress, the drivers that tick for it, and the chain
client.

**The chain's place and the line before it.** At most one call at a time may use the chain. Callers
stand in line for it in the order in which they first asked; the first in line holds the chain, also
while it has not yet noticed. Whoever leaves the line, being done or given up, makes room for the
next.

**Wake-ups.** An accepted offer and an accepted completion wake a driver. If drivers are waiting to
be told, the one that has waited longest is told; if none is, the wake-up is kept for the next one
that would wait, and no second is kept beside it.

**Turns.** Drivers run in turns, in the order in which they were summoned: when they are spawned,
are told of a wake-up or of a shutdown, or come to hold the chain, and when an interval is due.

**The journal** records what has happened, oldest first: what became of tasks, which calls the
client answered and how, and what busy listeners were told.
-/

namespace WalletReplay

/-- Something that has happened. -/
inductive Occurrence where
  /-- The task was accepted. -/
  | accepted (task : TaskId)
  /-- The task was dispatched at a time. -/
  | dispatched (task : TaskId) (now : Nat)
  /-- An attempt at the task got the chain. -/
  | attempted (task : TaskId)
  /-- An attempt at the task failed at a time, and what became of the task. -/
  | failed (task : TaskId) (now : Nat) (outcome : FailureOutcome)
  /-- The completion of the task was accepted. -/
  | completed (task : TaskId)
  /-- The task was popped. -/
  | retired (task : TaskId)
  /-- The caller got hold of the chain. -/
  | acquired (caller : Caller)
  /-- The client answered a caller's call, which succeeded or not. -/
  | answered (caller : Caller) (call : ClientCall) (succeeded : Bool)
  /-- A busy listener was told whether a wallet is busy. -/
  | heard (listener : String) (anyBusy : Bool)
  deriving DecidableEq

/-- How drivers are woken. -/
structure Wake where
  /-- A wake-up is kept for the next driver that would wait. -/
  kept : Bool := false
  /-- The drivers that wait to be told, longest first. -/
  waiting : List Nat := []

/-- A driver, by where it stands. Each has seen some number of shutdown calls and knows when its
next interval is due. -/
inductive Driver where
  /-- It was spawned and has not run yet. -/
  | spawned (seen : Nat)
  /-- It is about to choose what to do next. -/
  | choosing (seen due : Nat)
  /-- It waits, and was told of a wake-up or not. -/
  | waiting (seen due : Nat) (told : Bool)
  /-- Its tick is in progress. -/
  | ticking (seen due : Nat)
  /-- It has ended. -/
  | ended
  deriving DecidableEq, Repr

/-- A scheduler and everything around it. Times are milliseconds on one clock. -/
structure Scheduler where
  /-- The checkpoints that targets are resolved with. -/
  checkpoints : Checkpoints
  /-- What is done about failed attempts. -/
  retry : RetryPolicy := {}
  /-- The time between two ticks of a driver. -/
  interval : Nat := 200
  /-- The time. -/
  clock : Nat := 0
  /-- The wallets, their owners and the busy listeners. -/
  roster : Roster := {}
  /-- The tasks in line. -/
  queue : Queue := {}
  /-- How many tasks were accepted. -/
  acceptedCount : Nat := 0
  /-- The chain, if one is in its place. -/
  slot : Option Stack := none
  /-- The callers in line for the chain, of whom the first holds it. -/
  line : List Caller := []
  /-- The calls in progress, each under its caller. -/
  calls : Table Caller Call := {}
  /-- How often shutdown was called. -/
  shutdownCount : Nat := 0
  /-- How drivers are woken. -/
  wake : Wake := {}
  /-- The drivers, in the order in which they were spawned. -/
  drivers : List Driver := []
  /-- The drivers that are to run, next first. -/
  turns : List Nat := []
  /-- The chain client. -/
  client : Client := {}
  /-- What has happened, oldest first. -/
  journal : List Occurrence := []

namespace Scheduler

/-- Whether shutdown was called. -/
def isShutDown (s : Scheduler) : Bool :=
  0 < s.shutdownCount

/-- Whether something other than an owner holds a wallet: a task in line, a progress listener, or a
call in progress. -/
def holdsWallet (s : Scheduler) (w : Wallet) : Bool :=
  s.queue.tasks.any (·.wallets.contains w) || s.client.listeners.any (·.wallet = w)
    || s.calls.any fun _ c => c.holds w

/-- Whether the chain is held by a call. -/
def isChainHeld (s : Scheduler) : Bool :=
  !s.line.isEmpty

/-- Records occurrences. -/
def record (s : Scheduler) (new : List Occurrence) : Scheduler :=
  { s with journal := s.journal ++ new }

/-- A driver is to run, behind those that are to run already. -/
def summon (s : Scheduler) (d : Nat) : Scheduler :=
  if s.turns.contains d then s else { s with turns := s.turns ++ [d] }

/-- The drivers that wait, each with the time when its next interval is due. -/
def waitingDrivers (s : Scheduler) : List (Nat × Nat) :=
  (List.range s.drivers.length).filterMap fun d =>
    match s.drivers[d]? with
    | some (Driver.waiting _ due _) => some (d, due)
    | _ => none

/-- Drivers are to run. -/
def summonAll (s : Scheduler) (ds : List Nat) : Scheduler :=
  ds.foldl summon s

/-- Wakes a driver. -/
def wakeOne (s : Scheduler) : Scheduler :=
  match s.wake.waiting with
  | [] => { s with wake := { s.wake with kept := true } }
  | d :: rest =>
    summon
      { s with
        wake := { s.wake with waiting := rest }
        drivers := s.drivers.modify d fun
          | .waiting seen due _ => .waiting seen due true
          | driver => driver }
      d

/-- Tells every busy listener whether a wallet is busy. -/
def announce (s : Scheduler) : Scheduler :=
  s.record ((s.roster.announcement s.holdsWallet).map fun h => .heard h.1 h.2)

/-- A scheduler without a chain. -/
def start (checkpoints : Checkpoints) (retry : RetryPolicy) (interval : Nat) : Scheduler :=
  { checkpoints, retry, interval }

/-- A scheduler with a chain that was synced to a height before. -/
def startSynced (checkpoints : Checkpoints) (retry : RetryPolicy) (interval : Nat)
    (height : Height) : Scheduler :=
  let (stack, client) := Client.synced height
  { checkpoints, retry, interval, slot := some stack, client }

/-- A scheduler to which nothing has happened yet. If a chain was synced before, its height is
given. -/
def fresh (checkpoints : Checkpoints) (retry : RetryPolicy) (interval : Nat)
    (synced : Option Height) : Scheduler :=
  match synced with
  | none => start checkpoints retry interval
  | some height => startSynced checkpoints retry interval height

end Scheduler

end WalletReplay
