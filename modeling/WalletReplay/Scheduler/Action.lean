import WalletReplay.Scheduler.Driver
import WalletReplay.Wallet.Owner

/-!
# Runs of the scheduler

Whatever happens to a scheduler is one of a few actions, none of which is interrupted by another:
what owners do with wallets, offers and reports of completion, calls that are made, polled and given
up, drivers that are spawned and polled, what the client is told, and time that passes. A run is a
sequence of actions, in any order.

Calls of owners are named. A new call under a name takes the place of the one that has it, which is
given up. Wallets are offered by the names under which owners hold them.
-/

namespace WalletReplay

/-- Something that happens to a scheduler. -/
inductive Action where
  /-- An owner does something with a wallet. -/
  | own (action : OwnerAction)
  /-- Someone wants to be told when wallets become busy. -/
  | listen (listener : String)
  /-- A replay of wallets is offered. -/
  | offer (handles : List String) (target : Target)
  /-- The download of a task is reported to have caught up. -/
  | notify (task : TaskId)
  /-- A call is made. -/
  | create (name : String) (kind : CallKind)
  /-- A call is run to where it waits next. -/
  | poll (name : String)
  /-- A call is given up. -/
  | cancel (name : String)
  /-- A driver is spawned. -/
  | spawn
  /-- A driver is run to where it waits next, or to where it has to choose again. -/
  | drive (driver : Nat)
  /-- The client is told to fail. -/
  | inject (step : ClientStep) (times : Nat)
  /-- Blocks have arrived at the client. -/
  | progress (height : Height) (left : BlockCount)
  /-- The download of the client has caught up. -/
  | finish
  /-- The chain of the client has got a height. -/
  | setHeight (height : Height)
  /-- Time passes. -/
  | wait (ms : Nat)

/-- What those see who act on a scheduler. -/
inductive Answer where
  /-- Nothing. -/
  | none
  /-- Whether something was done. -/
  | flag (done : Bool)
  /-- The task that was made, if one was. -/
  | task (id : Option TaskId)
  /-- Where a call has come to. -/
  | poll (result : Poll)
  deriving DecidableEq, Repr

namespace Scheduler

/-- The wallets that owners hold under names. -/
def heldWallets (s : Scheduler) (handles : List String) : List Wallet :=
  handles.filterMap s.roster.handles.get?

/-- What an action makes of a scheduler, and what is seen of it. -/
def act (s : Scheduler) : Action → Scheduler × Answer
  | .own action => ({ s with roster := s.roster.own action }, .none)
  | .listen listener => ({ s with roster := s.roster.listen listener }, .none)
  | .offer handles target =>
    let (s, id) := s.offer { wallets := s.heldWallets handles, target }
    (s, .task id)
  | .notify task =>
    let (s, done) := s.notifyCompleted task
    (s, .flag done)
  | .create name kind => ((s.cancel (.named name)).1.create (.named name) kind, .none)
  | .poll name =>
    let (s, result) := s.poll (.named name)
    (s, .poll result)
  | .cancel name =>
    let (s, done) := s.cancel (.named name)
    (s, .flag done)
  | .spawn => (s.spawn, .none)
  | .drive d => (s.takeTurn d, .none)
  | .inject step times => ({ s with client := s.client.inject step times }, .none)
  | .progress height left => (s.progress height left, .none)
  | .finish =>
    let (s, done) := s.finishDownload
    (s, .flag done)
  | .setHeight height => ({ s with client := { s.client with bestHeight := height } }, .none)
  | .wait ms => ({ s with clock := s.clock + ms }, .none)

/-- What actions make of a scheduler, one after another. -/
def run (s : Scheduler) (actions : List Action) : Scheduler :=
  actions.foldl (fun s a => (s.act a).1) s

@[simp]
theorem run_nil (s : Scheduler) : s.run [] = s := rfl

@[simp]
theorem run_cons (s : Scheduler) (a : Action) (actions : List Action) :
    s.run (a :: actions) = (s.act a).1.run actions := rfl

/-- A run can be cut anywhere. -/
theorem run_append (s : Scheduler) (first next : List Action) :
    s.run (first ++ next) = (s.run first).run next := by
  simp [run]

end Scheduler

end WalletReplay
