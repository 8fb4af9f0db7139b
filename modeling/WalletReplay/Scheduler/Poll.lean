import WalletReplay.Scheduler.Download

/-!
# Running a call to where it waits next

A call runs without interruption from one poll to the next place where it waits: for the chain, if
another call holds it, or for the client. Each poll of a call that holds the chain lets the client
answer one call, and goes on to the next or ends.

**A tick** retires the head if it is retiring and dispatches the next task, if one can be. The
attempt at the task takes the old stack down, builds a new one at the task's checkpoint, starts it
and resumes the download. An attempt refused because of a shutdown takes the dispatch back; one that
fails is counted. A tick itself never fails.

**A regular download** starts the network of the stack there is, unless it runs, and resumes the
download.

**A shutdown** takes effect when it is first polled, and then takes the stack down.
-/

namespace WalletReplay

/-- What a poll shows. -/
inductive Poll where
  /-- There is no such call. -/
  | absent
  /-- The call waits. -/
  | pending
  /-- The call has ended, well or not. -/
  | done (error : Option CallError)
  deriving DecidableEq, Repr

namespace Scheduler

/-- The call ends. -/
def finish (s : Scheduler) (k : Caller) (error : Option CallError) : Scheduler × Poll :=
  ({ s with calls := s.calls.erase k }, .done error)

/-- The caller leaves the line. If it held the chain, the next in line holds it from now on; if that
is a driver, it is to run. -/
def leaveLine (s : Scheduler) (k : Caller) : Scheduler :=
  let left := { s with line := s.line.erase k }
  if s.line.head? = some k then
    match left.line.head? with
    | some (.driver d) => left.summon d
    | _ => left
  else left

/-- The call makes a client call and waits for the answer. -/
def work (s : Scheduler) (k : Caller) (w : Work) : Scheduler × Poll :=
  ({ s with client := s.client.enter, calls := s.calls.set k (.working w) }, .pending)

/-- The height of the chain in its place. -/
def bestHeight? (s : Scheduler) : Option Height :=
  s.slot.map fun _ => s.client.bestHeight

/-- A tick that holds the chain attempts its task. -/
def beginAttempt (s : Scheduler) (k : Caller) (task : Task) : Scheduler × Poll :=
  if s.isShutDown then (s.leaveLine k).finish k (some .shutDown)
  else
    let floor := s.bestHeight?
    let s := { s with roster := s.roster.modifyAll task.wallets SyncState.startDownload }
    let s := s.record [.attempted task.id]
    match s.slot with
    | some old => work { s with slot := none } k (.replay task floor (.stopping old))
    | none => s.work k (.replay task floor .creating)

/-- A regular download that holds the chain begins. -/
def beginRegular (s : Scheduler) (k : Caller) : Scheduler × Poll :=
  if s.isShutDown then (s.leaveLine k).finish k (some .shutDown)
  else
    match s.slot with
    | none => (s.leaveLine k).finish k (some .noChain)
    | some stack =>
      if stack.network.running then s.work k (.resuming stack.network.number)
      else s.work k (.starting stack.network.number)

/-- A shutdown that holds the chain takes it down. -/
def beginShutdown (s : Scheduler) (k : Caller) : Scheduler × Poll :=
  match s.slot with
  | none => (s.leaveLine k).finish k none
  | some stack => work { s with slot := none } k (.stopping stack)

/-- What a tick makes of the end of an attempt at its task. It takes the dispatch back if the attempt
was refused because of a shutdown, and counts an attempt that failed; it never fails itself. -/
def absorb (task : Task) : Scheduler × Poll → Scheduler × Poll
  | (s, .done (some .shutDown)) => ({ s with queue := (s.queue.abandon task.id).1 }, .done none)
  | (s, .done (some _)) =>
    let (queue, outcome) := s.queue.fail task.id s.retry s.clock
    (record { s with queue } [.failed task.id s.clock outcome], .done none)
  | result => result

/-- The caller has come to hold the chain and begins its errand. -/
def enterChain (s : Scheduler) (k : Caller) (errand : Errand) : Scheduler × Poll :=
  let s := s.record [.acquired k]
  match errand with
  | .replay task => absorb task (s.beginAttempt k task)
  | .regular => s.beginRegular k
  | .shutdown => s.beginShutdown k

/-- The caller joins the line with an errand, and begins it if there was nobody in line. -/
def joinLine (s : Scheduler) (k : Caller) (errand : Errand) : Scheduler × Poll :=
  let free := s.line.isEmpty
  let s := { s with line := s.line ++ [k] }
  if free then s.enterChain k errand
  else ({ s with calls := s.calls.set k (.waiting errand) }, .pending)

/-- The occurrence of a task being popped. -/
def retirement (retired : Option Task) : List Occurrence :=
  match retired with
  | some task => [.retired task.id]
  | none => []

/-- A tick begins. -/
def beginTick (s : Scheduler) (k : Caller) : Scheduler × Poll :=
  if s.isShutDown then s.finish k none
  else
    let (queue, retired) := s.queue.retire
    let s := record { s with queue } (retirement retired)
    match s.queue.dispatch s.clock with
    | (_, none) => s.finish k none
    | (queue, some task) =>
      joinLine (record { s with queue } [.dispatched task.id s.clock]) k (.replay task)

/-- Shutdown is called; the waiting drivers hear of it. -/
def callShutdown (s : Scheduler) : Scheduler :=
  summonAll { s with shutdownCount := s.shutdownCount + 1 } (s.waitingDrivers.map (·.1))

/-- A call begins. -/
def beginCall (s : Scheduler) (k : Caller) : CallKind → Scheduler × Poll
  | .tick => s.beginTick k
  | .regular => s.joinLine k .regular
  | .shutdown => s.callShutdown.joinLine k .shutdown

/-- Marks the network of the stack in its place as running. -/
def markStarted (s : Scheduler) : Scheduler :=
  { s with slot := s.slot.map (·.setRunning true) }

/-- Sets the download that runs. -/
def setDownload (s : Scheduler) (download : Option Download) : Scheduler :=
  { s with client := { s.client with download } }

/-- The listeners of a network that is built for a task. -/
def listenersFor (task : Task) (floor : Option Height) : List ProgressListener :=
  task.wallets.map fun wallet => { wallet, start := task.start.height, floor }

/-- The client call of a stage has succeeded. -/
def advanceAttempt (s : Scheduler) (k : Caller) (task : Task) (floor : Option Height) :
    Stage → Scheduler × Poll
  | .stopping old =>
    (s.setDownload none).work k (.replay task floor (.closing (old.setRunning false)))
  | .closing _ => s.work k (.replay task floor .creating)
  | .creating =>
    let (store, client) := s.client.newStore task.start
    work { s with client } k (.replay task floor (.building store))
  | .building store =>
    s.work k (.replay task floor (.connecting store ⟨task.wallets.map (·.id)⟩))
  | .connecting store chain =>
    let (network, client) := s.client.newNetwork (listenersFor task floor)
    let s := { s with client, slot := some { store, chain, network } }
    s.work k (.replay task floor (.starting network.number))
  | .starting network => s.markStarted.work k (.replay task floor (.resuming network))
  | .resuming _ => ((s.setDownload (some (.replay task.id))).leaveLine k).finish k none

/-- The client call that a call waits for has succeeded. -/
def advance (s : Scheduler) (k : Caller) : Work → Scheduler × Poll
  | .replay task floor stage => s.advanceAttempt k task floor stage
  | .starting network => s.markStarted.work k (.resuming network)
  | .resuming _ => ((s.setDownload (some .regular)).leaveLine k).finish k none
  | .stopping stack => (s.setDownload none).work k (.closing (stack.setRunning false))
  | .closing _ => (s.leaveLine k).finish k none

/-- The client call that a call waits for has failed, and so has the call. An attempt at a task puts
an old stack that could not be stopped back in its place. -/
def abort (s : Scheduler) (k : Caller) (w : Work) : Scheduler × Poll :=
  let slot := match w with
    | .replay _ _ (.stopping old) => some old
    | _ => s.slot
  (leaveLine { s with slot } k).finish k (some (.client w.call.step))

/-- The client answers the call that is waited for, and what waited goes on or ends. -/
def pursue (s : Scheduler) (k : Caller) (w : Work) : Scheduler × Poll :=
  let (client, succeeded) := s.client.leave.answer w.call.step
  let s := record { s with client } [.answered k w.call succeeded]
  if succeeded then s.advance k w else s.abort k w

/-- A call goes on once the client has answered; a tick deals with how its attempt ended. -/
def receive (s : Scheduler) (k : Caller) (w : Work) : Scheduler × Poll :=
  match w.task? with
  | some task => absorb task (s.pursue k w)
  | none => s.pursue k w

/-- Runs a call to where it waits next. -/
def poll (s : Scheduler) (k : Caller) : Scheduler × Poll :=
  match s.calls.get? k with
  | none => (s, .absent)
  | some (.fresh kind) => s.beginCall k kind
  | some (.waiting errand) =>
    if s.line.head? = some k then s.enterChain k errand else (s, .pending)
  | some (.working w) => s.receive k w

/-- Makes a call without running it. -/
def create (s : Scheduler) (k : Caller) (kind : CallKind) : Scheduler :=
  { s with calls := s.calls.set k (.fresh kind) }

/-- Gives a call up where it stands: whether there was one. What it carries along is lost. -/
def cancel (s : Scheduler) (k : Caller) : Scheduler × Bool :=
  match s.calls.get? k with
  | none => (s, false)
  | some call =>
    let client := match call with
      | .working _ => s.client.leave
      | _ => s.client
    ((leaveLine { s with client, calls := s.calls.erase k } k), true)

end Scheduler

end WalletReplay
