import WalletReplay.Scheduler.Poll

/-!
# Drivers

A driver ticks for the scheduler: at once when it first runs, then at every interval, and whenever
it is woken. It ends when shutdown has been called since it was spawned. Of several reasons to go on
the first of these counts: a shutdown, an interval that is due, a wake-up; one that does not count
now is kept for later.

**Turns.** A driver that runs goes on until it waits: to be woken, for the chain, or for the client.
While a client call is in progress the drivers that were summoned take their turns; its driver goes
on when none is left.

An interval that is served late by more than `lateness` puts the next one a whole interval after the
time it was served; otherwise the next one is an interval after the time it was due.
-/

namespace WalletReplay.Scheduler

/-- Intervals served later than this, in milliseconds, are late. -/
def lateness : Nat := 5

/-- When the next interval is due. -/
def nextDue (s : Scheduler) (due : Nat) : Nat :=
  if due + lateness < s.clock then s.clock + s.interval else due + s.interval

/-- Sets where a driver stands. -/
def setDriver (s : Scheduler) (d : Nat) (driver : Driver) : Scheduler :=
  { s with drivers := s.drivers.set d driver }

/-- The driver waits no longer to be told; a wake-up it was told of is passed on. -/
def forgo (s : Scheduler) (d : Nat) (told : Bool) : Scheduler :=
  if told then s.wakeOne
  else { s with wake := { s.wake with waiting := s.wake.waiting.erase d } }

/-- The driver runs its tick to where it waits next. -/
def runTick (s : Scheduler) (d seen due : Nat) : Scheduler :=
  match s.poll (.driver d) with
  | (s, .pending) => s.setDriver d (.ticking seen due)
  | (s, _) => s.setDriver d (.choosing seen due)

/-- The driver begins a tick. -/
def driverTick (s : Scheduler) (d seen due : Nat) : Scheduler :=
  (s.create (.driver d) .tick).runTick d seen due

/-- Runs a driver to where it waits next, or to where it has to choose again. -/
def pollDriver (s : Scheduler) (d : Nat) : Scheduler :=
  match s.drivers[d]? with
  | none | some .ended => s
  | some (.spawned seen) => s.setDriver d (.choosing seen s.clock)
  | some (.choosing seen due) =>
    if seen < s.shutdownCount then s.setDriver d .ended
    else if due ≤ s.clock then s.driverTick d seen (s.nextDue due)
    else if s.wake.kept then
      driverTick { s with wake := { s.wake with kept := false } } d seen due
    else
      setDriver { s with wake := { s.wake with waiting := s.wake.waiting ++ [d] } } d
        (.waiting seen due false)
  | some (.waiting seen due told) =>
    if seen < s.shutdownCount then (s.setDriver d .ended).forgo d told
    else if due ≤ s.clock then
      ((s.setDriver d (.choosing seen due)).forgo d told).driverTick d seen (s.nextDue due)
    else if told then s.driverTick d seen due
    else s
  | some (.ticking seen due) => s.runTick d seen due

/-- Spawns a driver. -/
def spawn (s : Scheduler) : Scheduler :=
  summon { s with drivers := s.drivers ++ [.spawned s.shutdownCount] } s.drivers.length

/-- Whether a call would get further if it were polled. -/
def canProceed (s : Scheduler) (k : Caller) : Bool :=
  match s.calls.get? k with
  | none => false
  | some (.waiting _) => s.line.head? = some k
  | some _ => true

/-- Whether the tick of a driver waits for the client. -/
def awaitsClient (s : Scheduler) (d : Nat) : Bool :=
  match s.calls.get? (.driver d) with
  | some (.working _) => true
  | _ => false

/-- The driver that runs next. -/
def nextDriver? (s : Scheduler) : Option Nat :=
  s.turns.head?.or ((List.range s.drivers.length).find? s.awaitsClient)

/-- Runs a driver, which keeps its turn as long as it has to choose what to do next. -/
def takeTurn (s : Scheduler) (d : Nat) : Scheduler :=
  let s := pollDriver { s with turns := s.turns.erase d } d
  match s.drivers[d]? with
  | some (.choosing _ _) => { s with turns := d :: s.turns.erase d }
  | _ => s

/-- Lets drivers take their turns, at most so many times. -/
def settleWithin (s : Scheduler) : Nat → Scheduler
  | 0 => s
  | fuel + 1 =>
    match s.nextDriver? with
    | none => s
    | some d => (s.takeTurn d).settleWithin fuel

/-- Lets drivers take their turns until no more are summoned, at most so many times. A client call
that is in progress stays so. -/
def runTurns (s : Scheduler) : Nat → Scheduler
  | 0 => s
  | fuel + 1 =>
    match s.turns with
    | [] => s
    | d :: _ => (s.takeTurn d).runTurns fuel

/-- The most turns that are taken at one time. A driver then serves at most the intervals of the
last few milliseconds and the wake-ups there are, and a tick takes no more than a dozen polls. -/
def pollBound (s : Scheduler) : Nat :=
  16 * (lateness + 4) * (s.drivers.length + 1) * (s.drivers.length + 1)

/-- Runs the drivers until none gets further at this time. -/
def settle (s : Scheduler) : Scheduler :=
  let due := s.waitingDrivers.filter (·.2 ≤ s.clock)
  (s.summonAll (due.map (·.1))).settleWithin s.pollBound

/-- When the next interval of a waiting driver is due. -/
def nextInterval? (s : Scheduler) : Option Nat :=
  (s.waitingDrivers.map (·.2)).min?

/-- Runs the drivers through so many intervals until a time, and moves the clock there. -/
def runUntil (s : Scheduler) (stop : Nat) : Nat → Scheduler
  | 0 => { s with clock := stop }
  | fuel + 1 =>
    let s := s.settle
    match s.nextInterval? with
    | none => { s with clock := stop }
    | some due =>
      if due ≤ stop then runUntil { s with clock := max s.clock due } stop fuel
      else { s with clock := stop }

/-- Lets time pass, with the drivers running. -/
def elapse (s : Scheduler) (ms : Nat) : Scheduler :=
  s.runUntil (s.clock + ms) ((s.drivers.length + 1) * (ms / s.interval + 8))

/-- Waits for a driver to end, at this time: whether it has ended. -/
def join (s : Scheduler) (d : Nat) : Scheduler × Bool :=
  let s := s.settle
  (s, s.drivers[d]? = some .ended)

/-- Runs a call to its end, in so many polls, letting the drivers run while it waits for the
chain. -/
def finishWithin (s : Scheduler) (k : Caller) : Nat → Scheduler × Poll
  | 0 => (s, .pending)
  | fuel + 1 =>
    match s.poll k with
    | (s, .pending) =>
      let s := if s.canProceed k then s else s.settle
      s.finishWithin k fuel
    | ended => ended

/-- The most polls that a call takes: one for each client call of an attempt, one to begin it and
one while it waits for the chain. -/
def maxPolls : Nat := 10

/-- Makes a call and runs it to its end. -/
def call (s : Scheduler) (k : Caller) (kind : CallKind) : Scheduler × Poll :=
  (s.create k kind).finishWithin k maxPolls

end WalletReplay.Scheduler
