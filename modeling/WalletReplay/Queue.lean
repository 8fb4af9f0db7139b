import WalletReplay.Task

/-!
# The queue of tasks

Accepted tasks wait in line, and only the task at the head is worked on. The queue's phase says how
far that work has come:

    idle ──▸ running ──▸ completing ──▸ retiring ──▸ idle, the head popped
              │ ▴  ╰──▸ idle, the head kept
              ▾ │
            backoff, stalled ──▸ completing

A task runs when it is dispatched. An attempt that fails leaves it backing off until it may be
dispatched again, or stalled when the policy allows no further attempt. Completion is accepted of a
task that has been dispatched, however its attempt ended; once its wallets are released the task
retires, and is popped.

Times are milliseconds on one clock.
-/

namespace WalletReplay

/-- How far the work on the head of the queue has come. -/
inductive Phase where
  /-- Nothing is dispatched. -/
  | idle
  /-- The task is dispatched, after some failed attempts. -/
  | running (task : TaskId) (failures : Nat)
  /-- The completion of the task was accepted, and its wallets are being released. -/
  | completing (task : TaskId)
  /-- The wallets of the task are released. -/
  | retiring (task : TaskId)
  /-- The last attempt failed, and the task may be dispatched again from a time on. -/
  | backoff (task : TaskId) (failures : Nat) (retryAt : Nat)
  /-- The last attempt failed, and the task is not dispatched again. -/
  | stalled (task : TaskId) (failures : Nat)
  deriving DecidableEq, Repr

/-- The task that a phase is about. -/
def Phase.task? : Phase → Option TaskId
  | idle => none
  | running t _ | completing t | retiring t | backoff t _ _ | stalled t _ => some t

/-- Whether the completion of a task can be accepted: it is dispatched and not yet completed. -/
def Phase.acceptsCompletion (p : Phase) (id : TaskId) : Bool :=
  match p with
  | .running t _ | .backoff t _ _ | .stalled t _ => t = id
  | _ => false

/-- What is done about a failed attempt. -/
structure RetryPolicy where
  /-- How many failed attempts are followed by another; all of them if absent. -/
  maxRetries : Option Nat := none
  /-- How many milliseconds later the next attempt may begin. -/
  backoff : Nat := 0

/-- Failed attempts are counted up to this number. -/
def failureLimit : Nat := 4294967295

/-- It is the greatest number of 32 bits. -/
theorem failureLimit_eq : failureLimit = UInt32.size - 1 := rfl

/-- Whether the policy allows no attempt after this many failed ones. -/
def RetryPolicy.isExhausted (p : RetryPolicy) (failures : Nat) : Bool :=
  match p.maxRetries with
  | some most => most < failures
  | none => false

/-- What became of a task whose attempt failed. -/
inductive FailureOutcome where
  /-- It may be dispatched again from a time on. -/
  | retry (failures : Nat) (retryAt : Nat)
  /-- It stalls. -/
  | stalled (failures : Nat)
  /-- Nothing, for it was not running any more. -/
  | ignored
  deriving DecidableEq, Repr

/-- The tasks in line and the phase of the first. -/
structure Queue where
  /-- The tasks, in the order in which they were accepted. -/
  tasks : List Task := []
  /-- How far the work on the first has come. -/
  phase : Phase := .idle
  deriving DecidableEq

namespace Queue

/-- How many tasks are in line. -/
def size (q : Queue) : Nat :=
  q.tasks.length

/-- The task at the head. -/
def head? (q : Queue) : Option Task :=
  q.tasks.head?

/-- The tasks whose wallets are claimed: all but a head that is retiring. -/
def claiming (q : Queue) : List Task :=
  match q.phase with
  | .retiring _ => q.tasks.tail
  | _ => q.tasks

/-- The first task that claims the wallets with this identifier. -/
def claimant? (q : Queue) (id : WalletId) : Option Task :=
  q.claiming.find? (·.includes id)

/-- Puts a task at the end of the line. -/
def push (q : Queue) (t : Task) : Queue :=
  { q with tasks := q.tasks ++ [t] }

/-- Pops the head, if it is the task that retires. -/
def retire (q : Queue) : Queue × Option Task :=
  match q.phase with
  | .retiring id =>
    match q.tasks with
    | t :: ts => if t.id = id then (⟨ts, .idle⟩, some t) else (⟨t :: ts, .idle⟩, none)
    | [] => (⟨[], .idle⟩, none)
  | _ => (q, none)

/-- The failed attempts that the head is dispatched with, if it can be dispatched now. -/
def readiness? (q : Queue) (head : Task) (now : Nat) : Option Nat :=
  match q.phase with
  | .idle => some 0
  | .backoff id failures retryAt => if id = head.id ∧ retryAt ≤ now then some failures else none
  | _ => none

/-- Dispatches the head, if it can be dispatched now. -/
def dispatch (q : Queue) (now : Nat) : Queue × Option Task :=
  match q.head? with
  | none => (q, none)
  | some head =>
    match q.readiness? head now with
    | none => (q, none)
    | some failures => ({ q with phase := .running head.id failures }, some head)

/-- Records that an attempt at a task has failed. -/
def fail (q : Queue) (id : TaskId) (policy : RetryPolicy) (now : Nat) : Queue × FailureOutcome :=
  match q.phase with
  | .running running failures =>
    if running = id then
      let failures := min (failures + 1) failureLimit
      if policy.isExhausted failures then
        ({ q with phase := .stalled id failures }, .stalled failures)
      else
        let retryAt := now + policy.backoff
        ({ q with phase := .backoff id failures retryAt }, .retry failures retryAt)
    else (q, .ignored)
  | _ => (q, .ignored)

/-- Takes a dispatch back, without counting a failure. -/
def abandon (q : Queue) (id : TaskId) : Queue × Bool :=
  match q.phase with
  | .running running _ => if running = id then ({ q with phase := .idle }, true) else (q, false)
  | _ => (q, false)

/-- Starts to complete the head, if it is this task and was dispatched. -/
def beginCompletion (q : Queue) (id : TaskId) : Queue × Option Task :=
  match q.head? with
  | none => (q, none)
  | some head =>
    if head.id = id ∧ q.phase.acceptsCompletion id then
      ({ q with phase := .completing id }, some head)
    else (q, none)

/-- Ends the completion of a task, which then retires. -/
def finishCompletion (q : Queue) (id : TaskId) : Queue × Bool :=
  match q.phase with
  | .completing completing =>
    if completing = id then ({ q with phase := .retiring id }, true) else (q, false)
  | _ => (q, false)

end Queue

end WalletReplay
