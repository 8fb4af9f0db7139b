import Mathlib.Tactic.Common
import WalletReplay.Queue

/-!
# The diagram of the queue

The queue's phases and the arrows between them, as drawn in `WalletReplay.Queue`, are made a
relation here: `Follows e q q'` says that the queue goes from `q` to `q'` along the arrow `e`. Each
arrow is about the head and about nothing else: the tasks stay as they are, but for the head that is
popped.

## What is proved

* `headMatches_performAll` — a phase that is about a task is about the head, after any operations.
* `perform_follows_diagram` — an operation of any kind, after any others, goes along one arrow of
  its own and gives back the head, or appends a task, or is refused and changes nothing; one that is
  barred, being about another task than the head or too early, is refused; and a queue that is
  retiring always pops its head.

The lemmas on single operations say all that an operation can do, so that nothing else needs to look
into it.
-/

namespace WalletReplay

theorem Phase.acceptsCompletion_iff (p : Phase) (id : TaskId) :
    p.acceptsCompletion id = true ↔ (∃ n, p = .running id n) ∨ (∃ n t, p = .backoff id n t) ∨
      ∃ n, p = .stalled id n := by
  cases p <;> simp [Phase.acceptsCompletion]

namespace Queue

/-! ### Single operations -/

/-- A dispatched task is the head of an idle queue, or of one that backs off no longer. -/
theorem dispatch_cases (q : Queue) (now : Nat) :
    q.dispatch now = (q, none) ∨
      ∃ head failures, q.head? = some head ∧
        q.dispatch now = ({ q with phase := .running head.id failures }, some head) ∧
        (q.phase = .idle ∧ failures = 0 ∨
          ∃ retryAt, q.phase = .backoff head.id failures retryAt ∧ retryAt ≤ now) := by
  unfold dispatch
  cases hhead : q.head? with
  | none => exact Or.inl rfl
  | some head =>
    cases hready : q.readiness? head now with
    | none => exact Or.inl (by simp only [hready])
    | some failures =>
      refine Or.inr ⟨head, failures, rfl, by simp only [hready], ?_⟩
      unfold readiness? at hready
      split at hready
      · rename_i hphase
        exact Or.inl ⟨hphase, by simpa using hready.symm⟩
      · rename_i id n retryAt hphase
        split_ifs at hready with hnow
        obtain ⟨rfl, hnow⟩ := hnow
        obtain rfl : n = failures := by simpa using hready
        exact Or.inr ⟨retryAt, hphase, hnow⟩
      · simp at hready

/-- A failed attempt counts if the task is running, and leaves it stalled or backing off. -/
theorem fail_cases (q : Queue) (id : TaskId) (policy : RetryPolicy) (now : Nat) :
    (∀ failures, q.phase ≠ .running id failures) ∧ q.fail id policy now = (q, .ignored) ∨
      ∃ failures count, q.phase = .running id failures ∧ count = min (failures + 1) failureLimit ∧
        (policy.isExhausted count = true ∧
            q.fail id policy now = ({ q with phase := .stalled id count }, .stalled count) ∨
          policy.isExhausted count = false ∧
            q.fail id policy now = ({ q with phase := .backoff id count (now + policy.backoff) },
              .retry count (now + policy.backoff))) := by
  unfold fail
  split
  · rename_i running failures hphase
    by_cases hid : running = id
    · subst hid
      refine Or.inr ⟨failures, _, hphase, rfl, ?_⟩
      by_cases hp : policy.isExhausted (min (failures + 1) failureLimit) = true
      · exact Or.inl ⟨hp, by simp [hp]⟩
      · exact Or.inr ⟨by simpa using hp, by simp [hp]⟩
    · refine Or.inl ⟨fun n hn => hid ?_, by simp [hid]⟩
      rw [hphase] at hn
      exact (Phase.running.inj hn).1
  · rename_i hphase
    exact Or.inl ⟨hphase id, rfl⟩

/-- A dispatch is taken back if the task is running. -/
theorem abandon_cases (q : Queue) (id : TaskId) :
    (∀ failures, q.phase ≠ .running id failures) ∧ q.abandon id = (q, false) ∨
      ∃ failures, q.phase = .running id failures ∧
        q.abandon id = ({ q with phase := .idle }, true) := by
  unfold abandon
  split
  · rename_i running failures hphase
    by_cases hid : running = id
    · subst hid
      exact Or.inr ⟨failures, hphase, by simp⟩
    · refine Or.inl ⟨fun n hn => hid ?_, by simp [hid]⟩
      rw [hphase] at hn
      exact (Phase.running.inj hn).1
  · rename_i hphase
    exact Or.inl ⟨hphase id, rfl⟩

/-- Completion begins for the head, if it was dispatched. -/
theorem beginCompletion_cases (q : Queue) (id : TaskId) :
    q.beginCompletion id = (q, none) ∨
      ∃ head, q.head? = some head ∧ head.id = id ∧ q.phase.acceptsCompletion id = true ∧
        q.beginCompletion id = ({ q with phase := .completing id }, some head) := by
  unfold beginCompletion
  cases hhead : q.head? with
  | none => exact Or.inl rfl
  | some head =>
    by_cases h : head.id = id ∧ q.phase.acceptsCompletion id = true
    · exact Or.inr ⟨head, rfl, h.1, h.2, by simp [h.1, h.2]⟩
    · exact Or.inl (by simp only [h, if_false])

/-- Completion ends for the task that it began for. -/
theorem finishCompletion_cases (q : Queue) (id : TaskId) :
    q.finishCompletion id = (q, false) ∨
      q.phase = .completing id ∧
        q.finishCompletion id = ({ q with phase := .retiring id }, true) := by
  unfold finishCompletion
  split
  · rename_i completing hphase
    by_cases hid : completing = id
    · subst hid
      exact Or.inr ⟨hphase, by simp⟩
    · exact Or.inl (by simp [hid])
  · exact Or.inl rfl

/-- A queue that is not retiring pops nothing. -/
theorem retire_of_ne {q : Queue} (h : ∀ id, q.phase ≠ .retiring id) : q.retire = (q, none) := by
  unfold retire
  split
  · rename_i id hphase
    exact absurd hphase (h id)
  · rfl

/-! ### The head -/

/-- A phase that is about a task is about the head. -/
def HeadMatches (q : Queue) : Prop :=
  ∀ id, q.phase.task? = some id → ∃ head, q.head? = some head ∧ head.id = id

theorem headMatches_of_idle {q : Queue} (h : q.phase = .idle) : q.HeadMatches := by
  intro id hid
  simp [h, Phase.task?] at hid

theorem eq_cons_of_head? {q : Queue} {head : Task} (h : q.head? = some head) :
    ∃ rest, q = ⟨head :: rest, q.phase⟩ := by
  obtain ⟨rest, hrest⟩ := List.head?_eq_some_iff.mp h
  exact ⟨rest, by rw [← hrest]⟩

/-- The head that the phase is about is the first of the tasks. -/
theorem HeadMatches.exists_eq_cons {q : Queue} (hq : q.HeadMatches) {id : TaskId}
    (h : q.phase.task? = some id) : ∃ head rest, q = ⟨head :: rest, q.phase⟩ ∧ head.id = id := by
  obtain ⟨head, hhead, rfl⟩ := hq id h
  obtain ⟨rest, hcons⟩ := eq_cons_of_head? hhead
  exact ⟨head, rest, hcons, rfl⟩

/-- A queue that retires pops the head that retires. -/
theorem HeadMatches.retire_cases {q : Queue} (hq : q.HeadMatches) :
    (∀ id, q.phase ≠ .retiring id) ∧ q.retire = (q, none) ∨
      ∃ head rest, q = ⟨head :: rest, .retiring head.id⟩ ∧
        q.retire = (⟨rest, .idle⟩, some head) := by
  by_cases h : ∃ id, q.phase = .retiring id
  · obtain ⟨id, hphase⟩ := h
    obtain ⟨head, rest, hcons, rfl⟩ := hq.exists_eq_cons (by rw [hphase]; rfl)
    rw [hphase] at hcons
    exact Or.inr ⟨head, rest, hcons, by simp [hcons, retire]⟩
  · have hne : ∀ id, q.phase ≠ .retiring id := fun id hid => h ⟨id, hid⟩
    exact Or.inl ⟨hne, retire_of_ne hne⟩

/-- A phase about the head that there was already keeps the phase about the head. -/
theorem headMatches_of_phase {q : Queue} {phase : Phase} {head : Task} (hhead : q.head? = some head)
    (h : ∀ id, phase.task? = some id → id = head.id) : HeadMatches { q with phase } :=
  fun id hid => ⟨head, hhead, (h id hid).symm⟩

/-- The head stays at the head. -/
theorem head?_push_of_some {q : Queue} {head : Task} (h : q.head? = some head) (task : Task) :
    (q.push task).head? = some head := by
  simp_all [push, head?, List.head?_append]

theorem HeadMatches.push {q : Queue} (hq : q.HeadMatches) (task : Task) :
    (q.push task).HeadMatches := by
  intro id hid
  obtain ⟨head, hhead, hhid⟩ := hq id hid
  exact ⟨head, head?_push_of_some hhead task, hhid⟩

theorem HeadMatches.dispatch {q : Queue} (hq : q.HeadMatches) (now : Nat) :
    (q.dispatch now).1.HeadMatches := by
  rcases q.dispatch_cases now with h | ⟨head, failures, hhead, h, -⟩
  · rw [h]
    exact hq
  · rw [h]
    exact headMatches_of_phase hhead (by simp [Phase.task?])

theorem HeadMatches.fail {q : Queue} (hq : q.HeadMatches) (id : TaskId) (policy : RetryPolicy)
    (now : Nat) : (q.fail id policy now).1.HeadMatches := by
  rcases q.fail_cases id policy now with ⟨-, h⟩ | ⟨failures, count, hphase, -, ⟨-, h⟩ | ⟨-, h⟩⟩
  · rw [h]
    exact hq
  all_goals
    obtain ⟨head, hhead, rfl⟩ := hq id (by rw [hphase]; rfl)
    rw [h]
    exact headMatches_of_phase hhead (by simp [Phase.task?])

theorem HeadMatches.abandon {q : Queue} (hq : q.HeadMatches) (id : TaskId) :
    (q.abandon id).1.HeadMatches := by
  rcases q.abandon_cases id with ⟨-, h⟩ | ⟨failures, -, h⟩
  · rw [h]
    exact hq
  · rw [h]
    exact headMatches_of_idle rfl

theorem HeadMatches.beginCompletion {q : Queue} (hq : q.HeadMatches) (id : TaskId) :
    (q.beginCompletion id).1.HeadMatches := by
  rcases q.beginCompletion_cases id with h | ⟨head, hhead, rfl, -, h⟩
  · rw [h]
    exact hq
  · rw [h]
    exact headMatches_of_phase hhead (by simp [Phase.task?])

theorem HeadMatches.finishCompletion {q : Queue} (hq : q.HeadMatches) (id : TaskId) :
    (q.finishCompletion id).1.HeadMatches := by
  rcases q.finishCompletion_cases id with h | ⟨hphase, h⟩
  · rw [h]
    exact hq
  · obtain ⟨head, hhead, rfl⟩ := hq id (by rw [hphase]; rfl)
    rw [h]
    exact headMatches_of_phase hhead (by simp [Phase.task?])

theorem HeadMatches.retire {q : Queue} (hq : q.HeadMatches) : q.retire.1.HeadMatches := by
  rcases hq.retire_cases with ⟨-, h⟩ | ⟨head, rest, -, h⟩
  · rw [h]
    exact hq
  · rw [h]
    exact headMatches_of_idle rfl

/-! ### Operations and their arrows -/

/-- An operation on a queue. -/
inductive Operation where
  /-- A task is put at the end of the line. -/
  | push (task : Task)
  /-- The head is to be dispatched at a time. -/
  | dispatch (now : Nat)
  /-- An attempt at a task has failed at a time. -/
  | fail (id : TaskId) (policy : RetryPolicy) (now : Nat)
  /-- The dispatch of a task is to be taken back. -/
  | abandon (id : TaskId)
  /-- The completion of a task is to begin. -/
  | beginCompletion (id : TaskId)
  /-- The completion of a task is to end. -/
  | finishCompletion (id : TaskId)
  /-- The head is to be popped. -/
  | retire

/-- What an operation gives back. -/
inductive Result where
  /-- Nothing. -/
  | nothing
  /-- A task, or none. -/
  | task (task : Option Task)
  /-- What became of a failed attempt. -/
  | outcome (outcome : FailureOutcome)
  /-- Whether it was done. -/
  | flag (done : Bool)

/-- No task, nothing done, or a failure that counts for nothing. -/
def Result.isRefusal : Result → Bool
  | nothing => false
  | task t => t.isNone
  | outcome o => o = .ignored
  | flag done => !done

/-- The task that an operation says it is about. -/
def Operation.task? : Operation → Option TaskId
  | push _ | dispatch _ | retire => none
  | fail id _ _ | abandon id | beginCompletion id | finishCompletion id => some id

/-- `Yields op head phase r`: an operation on the head, which leads to the phase, gives back the head
itself, or what has become of its failed attempt, or that it was done. -/
inductive Yields : Operation → Task → Phase → Result → Prop where
  /-- The head is dispatched. -/
  | dispatched {now : Nat} {head : Task} {failures : Nat} :
      Yields (.dispatch now) head (.running head.id failures) (.task (some head))
  /-- An attempt at the head has failed, and may be followed by another once it has backed off. -/
  | backedOff {policy : RetryPolicy} {now : Nat} {head : Task} {failures : Nat}
      (h : policy.isExhausted failures = false) :
      Yields (.fail head.id policy now) head (.backoff head.id failures (now + policy.backoff))
        (.outcome (.retry failures (now + policy.backoff)))
  /-- An attempt at the head has failed, and the policy allows no other. -/
  | stalled {policy : RetryPolicy} {now : Nat} {head : Task} {failures : Nat}
      (h : policy.isExhausted failures = true) :
      Yields (.fail head.id policy now) head (.stalled head.id failures)
        (.outcome (.stalled failures))
  /-- The dispatch of the head is taken back. -/
  | abandoned {head : Task} : Yields (.abandon head.id) head .idle (.flag true)
  /-- The head begins to complete. -/
  | completing {head : Task} :
      Yields (.beginCompletion head.id) head (.completing head.id) (.task (some head))
  /-- The wallets of the head are released. -/
  | released {head : Task} :
      Yields (.finishCompletion head.id) head (.retiring head.id) (.flag true)
  /-- The head is popped. -/
  | popped {head : Task} : Yields .retire head .idle (.task (some head))

/-- Carries an operation out. -/
def perform (q : Queue) : Operation → Queue × Result
  | .push task => (q.push task, .nothing)
  | .dispatch now => ((q.dispatch now).1, .task (q.dispatch now).2)
  | .fail id policy now => ((q.fail id policy now).1, .outcome (q.fail id policy now).2)
  | .abandon id => ((q.abandon id).1, .flag (q.abandon id).2)
  | .beginCompletion id => ((q.beginCompletion id).1, .task (q.beginCompletion id).2)
  | .finishCompletion id => ((q.finishCompletion id).1, .flag (q.finishCompletion id).2)
  | .retire => (q.retire.1, .task q.retire.2)

/-- Carries operations out, one after another. -/
def performAll (q : Queue) (ops : List Operation) : Queue :=
  ops.foldl (fun q op => (q.perform op).1) q

/-- The arrows of the diagram. -/
inductive Arrow where
  /-- An idle queue dispatches its head. -/
  | dispatch
  /-- An attempt fails, and another may follow. -/
  | backOff
  /-- An attempt fails, and none follows. -/
  | stall
  /-- A head that backs off is dispatched again. -/
  | retry
  /-- A head that was dispatched begins to complete. -/
  | complete
  /-- The wallets of the head are released. -/
  | release
  /-- The head is popped. -/
  | pop
  /-- The dispatch of the head is taken back. -/
  | takeBack
  deriving DecidableEq

/-- The arrows that an operation may go along. -/
def Operation.arrows : Operation → List Arrow
  | push _ => []
  | dispatch _ => [.dispatch, .retry]
  | fail _ _ _ => [.backOff, .stall]
  | abandon _ => [.takeBack]
  | beginCompletion _ => [.complete]
  | finishCompletion _ => [.release]
  | retire => [.pop]

/-- `Follows e q q'`: the queue goes from `q` to `q'` along the arrow `e`, which leads from a phase
of the head to a phase of the same head, or to none. -/
inductive Follows : Arrow → Queue → Queue → Prop where
  /-- From idle to running, with no failed attempt so far. -/
  | dispatch {head : Task} {rest : List Task} :
      Follows .dispatch ⟨head :: rest, .idle⟩ ⟨head :: rest, .running head.id 0⟩
  /-- From running to backing off, with one more failed attempt. -/
  | backOff {head : Task} {rest : List Task} {failures retryAt : Nat} :
      Follows .backOff ⟨head :: rest, .running head.id failures⟩
        ⟨head :: rest, .backoff head.id (min (failures + 1) failureLimit) retryAt⟩
  /-- From running to stalled, with one more failed attempt. -/
  | stall {head : Task} {rest : List Task} {failures : Nat} :
      Follows .stall ⟨head :: rest, .running head.id failures⟩
        ⟨head :: rest, .stalled head.id (min (failures + 1) failureLimit)⟩
  /-- From backing off to running. -/
  | retry {head : Task} {rest : List Task} {failures retryAt : Nat} :
      Follows .retry ⟨head :: rest, .backoff head.id failures retryAt⟩
        ⟨head :: rest, .running head.id failures⟩
  /-- From running, backing off or stalled to completing. -/
  | complete {head : Task} {rest : List Task} {phase : Phase}
      (h : phase.acceptsCompletion head.id = true) :
      Follows .complete ⟨head :: rest, phase⟩ ⟨head :: rest, .completing head.id⟩
  /-- From completing to retiring. -/
  | release {head : Task} {rest : List Task} :
      Follows .release ⟨head :: rest, .completing head.id⟩ ⟨head :: rest, .retiring head.id⟩
  /-- From retiring to idle, the head popped. -/
  | pop {head : Task} {rest : List Task} :
      Follows .pop ⟨head :: rest, .retiring head.id⟩ ⟨rest, .idle⟩
  /-- From running to idle, the head kept. -/
  | takeBack {head : Task} {rest : List Task} {failures : Nat} :
      Follows .takeBack ⟨head :: rest, .running head.id failures⟩ ⟨head :: rest, .idle⟩

/-- No two arrows lead from one queue to the same other. -/
theorem Follows.unique {e f : Arrow} {q q' : Queue} (he : Follows e q q') (hf : Follows f q q') :
    e = f := by
  cases he <;> cases hf <;> rfl

theorem HeadMatches.perform {q : Queue} (hq : q.HeadMatches) (op : Operation) :
    (q.perform op).1.HeadMatches := by
  cases op with
  | push task => exact hq.push task
  | dispatch now => exact hq.dispatch now
  | fail id policy now => exact hq.fail id policy now
  | abandon id => exact hq.abandon id
  | beginCompletion id => exact hq.beginCompletion id
  | finishCompletion id => exact hq.finishCompletion id
  | retire => exact hq.retire

theorem headMatches_performAll {q : Queue} (hq : q.HeadMatches) (ops : List Operation) :
    (q.performAll ops).HeadMatches := by
  induction ops generalizing q with
  | nil => exact hq
  | cons op ops ih => exact ih (hq.perform op)

theorem Yields.isRefusal_eq_false {op : Operation} {head : Task} {phase : Phase} {r : Result}
    (h : Yields op head phase r) : r.isRefusal = false := by
  cases h <;> rfl

/-- An operation on the head is about the head. -/
theorem Yields.eq_of_task? {op : Operation} {head : Task} {phase : Phase} {r : Result} {id : TaskId}
    (h : Yields op head phase r) (hid : op.task? = some id) : id = head.id := by
  cases h <;> simp_all [Operation.task?]

/-- What the diagram allows an operation to do: to be refused and change nothing, to append a task,
or to go along an arrow of its own and give back what the head yields. -/
def Obeys (q : Queue) (op : Operation) : Prop :=
  (q.perform op).2.isRefusal = true ∧ (q.perform op).1 = q ∨
    (q.perform op).2.isRefusal = false ∧
      ((∃ task, op = .push task ∧ (q.perform op).1 = { q with tasks := q.tasks ++ [task] }) ∨
        ∃ head, q.head? = some head ∧ Yields op head (q.perform op).1.phase (q.perform op).2 ∧
          ∃ e ∈ op.arrows, Follows e q (q.perform op).1)

theorem obeys_of_refused {q : Queue} {op : Operation} {r : Result} (h : q.perform op = (q, r))
    (hr : r.isRefusal = true) : q.Obeys op :=
  Or.inl (by simp [h, hr])

theorem obeys_of_follows {q q' : Queue} {op : Operation} {head : Task} {r : Result} {e : Arrow}
    (h : q.perform op = (q', r)) (hhead : q.head? = some head) (hr : Yields op head q'.phase r)
    (he : e ∈ op.arrows) (hf : Follows e q q') : q.Obeys op := by
  rw [Obeys, h]
  exact Or.inr ⟨hr.isRefusal_eq_false, Or.inr ⟨head, hhead, hr, e, he, hf⟩⟩

theorem obeys_dispatch (q : Queue) (now : Nat) : q.Obeys (.dispatch now) := by
  rcases q.dispatch_cases now with h | ⟨head, failures, hhead, h, hphase⟩
  · exact obeys_of_refused (r := .task none) (by simp [perform, h]) rfl
  · obtain ⟨rest, hcons⟩ := eq_cons_of_head? hhead
    have hp : q.perform (.dispatch now) =
        ({ q with phase := .running head.id failures }, .task (some head)) := by simp [perform, h]
    rcases hphase with ⟨hphase, rfl⟩ | ⟨retryAt, hphase, -⟩
    · refine obeys_of_follows (e := .dispatch) hp hhead .dispatched (by simp [Operation.arrows]) ?_
      rw [hcons, hphase]
      exact .dispatch
    · refine obeys_of_follows (e := .retry) hp hhead .dispatched (by simp [Operation.arrows]) ?_
      rw [hcons, hphase]
      exact .retry

theorem HeadMatches.obeys_fail {q : Queue} (hq : q.HeadMatches) (id : TaskId) (policy : RetryPolicy)
    (now : Nat) : q.Obeys (.fail id policy now) := by
  rcases q.fail_cases id policy now with ⟨-, h⟩ | ⟨failures, count, hphase, rfl, hcount⟩
  · exact obeys_of_refused (r := .outcome .ignored) (by simp [Queue.perform, h]) rfl
  · obtain ⟨head, hhead, rfl⟩ := hq id (by rw [hphase]; rfl)
    obtain ⟨rest, hcons⟩ := eq_cons_of_head? hhead
    rcases hcount with ⟨hpolicy, h⟩ | ⟨hpolicy, h⟩
    · refine obeys_of_follows (e := .stall) (by rw [Queue.perform, h]) hhead (.stalled hpolicy)
        (by simp [Operation.arrows]) ?_
      rw [hcons, hphase]
      exact .stall
    · refine obeys_of_follows (e := .backOff) (by rw [Queue.perform, h]) hhead (.backedOff hpolicy)
        (by simp [Operation.arrows]) ?_
      rw [hcons, hphase]
      exact .backOff

theorem HeadMatches.obeys_abandon {q : Queue} (hq : q.HeadMatches) (id : TaskId) :
    q.Obeys (.abandon id) := by
  rcases q.abandon_cases id with ⟨-, h⟩ | ⟨failures, hphase, h⟩
  · exact obeys_of_refused (r := .flag false) (by simp [Queue.perform, h]) rfl
  · obtain ⟨head, hhead, rfl⟩ := hq id (by rw [hphase]; rfl)
    obtain ⟨rest, hcons⟩ := eq_cons_of_head? hhead
    refine obeys_of_follows (e := .takeBack) (by rw [Queue.perform, h]) hhead .abandoned
      (by simp [Operation.arrows]) ?_
    rw [hcons, hphase]
    exact .takeBack

theorem obeys_beginCompletion (q : Queue) (id : TaskId) : q.Obeys (.beginCompletion id) := by
  rcases q.beginCompletion_cases id with h | ⟨head, hhead, rfl, haccepts, h⟩
  · exact obeys_of_refused (r := .task none) (by simp [perform, h]) rfl
  · obtain ⟨rest, hcons⟩ := eq_cons_of_head? hhead
    refine obeys_of_follows (e := .complete) (by rw [Queue.perform, h]) hhead .completing
      (by simp [Operation.arrows]) ?_
    rw [hcons]
    exact .complete haccepts

theorem HeadMatches.obeys_finishCompletion {q : Queue} (hq : q.HeadMatches) (id : TaskId) :
    q.Obeys (.finishCompletion id) := by
  rcases q.finishCompletion_cases id with h | ⟨hphase, h⟩
  · exact obeys_of_refused (r := .flag false) (by simp [Queue.perform, h]) rfl
  · obtain ⟨head, hhead, rfl⟩ := hq id (by rw [hphase]; rfl)
    obtain ⟨rest, hcons⟩ := eq_cons_of_head? hhead
    refine obeys_of_follows (e := .release) (by rw [Queue.perform, h]) hhead .released
      (by simp [Operation.arrows]) ?_
    rw [hcons, hphase]
    exact .release

theorem HeadMatches.obeys_retire {q : Queue} (hq : q.HeadMatches) : q.Obeys .retire := by
  rcases hq.retire_cases with ⟨-, h⟩ | ⟨head, rest, hcons, h⟩
  · exact obeys_of_refused (r := .task none) (by simp [Queue.perform, h]) rfl
  · refine obeys_of_follows (e := .pop) (by rw [Queue.perform, h]) (by rw [hcons]; rfl) .popped
      (by simp [Operation.arrows]) ?_
    rw [hcons]
    exact .pop

theorem HeadMatches.obeys {q : Queue} (hq : q.HeadMatches) (op : Operation) : q.Obeys op := by
  cases op with
  | push task => exact Or.inr ⟨rfl, Or.inl ⟨task, rfl, rfl⟩⟩
  | dispatch now => exact q.obeys_dispatch now
  | fail id policy now => exact hq.obeys_fail id policy now
  | abandon id => exact hq.obeys_abandon id
  | beginCompletion id => exact q.obeys_beginCompletion id
  | finishCompletion id => exact hq.obeys_finishCompletion id
  | retire => exact hq.obeys_retire

/-- What an operation is barred by. -/
inductive Barred (q : Queue) : Operation → Prop where
  /-- It is about another task than the head. -/
  | foreign {op : Operation} {id : TaskId} (hid : op.task? = some id)
      (hne : ∀ head, q.head? = some head → head.id ≠ id) : Barred q op
  /-- It would dispatch a head that still backs off. -/
  | early {now : Nat} {id : TaskId} {failures retryAt : Nat}
      (hphase : q.phase = .backoff id failures retryAt) (hnow : now < retryAt) :
      Barred q (.dispatch now)

/-- A head that backs off is not dispatched before its time. -/
theorem dispatch_of_lt {q : Queue} {id : TaskId} {now failures retryAt : Nat}
    (hphase : q.phase = .backoff id failures retryAt) (hnow : now < retryAt) :
    q.dispatch now = (q, none) := by
  rcases q.dispatch_cases now with h | ⟨head, count, -, -, ⟨hidle, -⟩ | ⟨time, hready, hle⟩⟩
  · exact h
  · cases hphase.symm.trans hidle
  · cases hphase.symm.trans hready
    exact absurd hle (Nat.not_le_of_lt hnow)

/-- An operation that is barred is refused. -/
theorem Barred.refused {q : Queue} {op : Operation} (hbarred : q.Barred op) (h : q.Obeys op) :
    (q.perform op).2.isRefusal = true ∧ (q.perform op).1 = q := by
  cases hbarred with
  | foreign hid hne =>
    rcases h with h | ⟨-, ⟨task, rfl, -⟩ | ⟨head, hhead, hyields, -⟩⟩
    · exact h
    · cases hid
    · exact absurd (hyields.eq_of_task? hid).symm (hne head hhead)
  | early hphase hnow =>
    rw [perform, dispatch_of_lt hphase hnow]
    exact ⟨rfl, rfl⟩

/-- An operation that could go along an arrow is refused only if it is barred. -/
theorem Follows.barred_of_refused {q q' : Queue} {op : Operation} {e : Arrow}
    (hf : Follows e q q') (he : e ∈ op.arrows) (h : (q.perform op).2.isRefusal = true) :
    q.Barred op := by
  cases op with
  | push task => cases he
  | dispatch now =>
    obtain rfl | rfl : e = .dispatch ∨ e = .retry := by simpa [Operation.arrows] using he
    · cases hf
      simp [perform, Queue.dispatch, head?, readiness?, Result.isRefusal] at h
    · cases hf with
      | @retry head rest failures retryAt =>
        refine .early rfl (Nat.lt_of_not_le fun hnow => ?_)
        simp [perform, Queue.dispatch, head?, readiness?, Result.isRefusal, hnow] at h
  | fail id policy now =>
    refine .foreign rfl ?_
    rintro head hhead rfl
    obtain rfl | rfl : e = .backOff ∨ e = .stall := by simpa [Operation.arrows] using he
    all_goals
      cases hf
      cases hhead
      simp only [perform, fail, if_true] at h
      split at h <;> cases h
  | abandon id =>
    refine .foreign rfl ?_
    rintro head hhead rfl
    obtain rfl : e = .takeBack := by simpa [Operation.arrows] using he
    cases hf
    cases hhead
    simp [perform, abandon, Result.isRefusal] at h
  | beginCompletion id =>
    refine .foreign rfl ?_
    rintro head hhead rfl
    obtain rfl : e = .complete := by simpa [Operation.arrows] using he
    cases hf with
    | complete haccepts =>
      cases hhead
      simp [perform, beginCompletion, head?, haccepts, Result.isRefusal] at h
  | finishCompletion id =>
    refine .foreign rfl ?_
    rintro head hhead rfl
    obtain rfl : e = .release := by simpa [Operation.arrows] using he
    cases hf
    cases hhead
    simp [perform, finishCompletion, Result.isRefusal] at h
  | retire =>
    obtain rfl : e = .pop := by simpa [Operation.arrows] using he
    cases hf
    simp [perform, retire, Result.isRefusal] at h

/-- **The queue follows its diagram.** After any operations a phase that is about a task is about
the head, and the next operation appends a task, or goes along one arrow of its own and gives back
what the head yields, or is refused and changes nothing. It is refused if it is about another task
or before its time, and else only where none of its arrows leads on. A queue that is retiring, and
no other, pops its head. -/
theorem perform_follows_diagram (ops : List Operation) (op : Operation) :
    let q := performAll {} ops
    let q' := (q.perform op).1
    let result := (q.perform op).2
    (∀ id, q.phase.task? = some id → ∃ head, q.head? = some head ∧ head.id = id) ∧
      (result.isRefusal = true ∧ q' = q ∨
        result.isRefusal = false ∧
          ((∃ task, op = .push task ∧ q' = { q with tasks := q.tasks ++ [task] }) ∨
            ∃ head, q.head? = some head ∧ (∀ id, op.task? = some id → id = head.id) ∧
              Yields op head q'.phase result ∧ ∃! e, e ∈ op.arrows ∧ Follows e q q')) ∧
      (q.Barred op → result.isRefusal = true ∧ q' = q) ∧
      (result.isRefusal = true → ∀ e ∈ op.arrows, ∀ q'', Follows e q q'' → q.Barred op) ∧
      (∀ id, q.phase = .retiring id → ∃ head rest, q = ⟨head :: rest, .retiring head.id⟩ ∧
        q.retire = (⟨rest, .idle⟩, some head)) ∧
      ∀ head, q.retire.2 = some head → q.phase = .retiring head.id := by
  intro q q' result
  have hq : q.HeadMatches := headMatches_performAll (headMatches_of_idle rfl) ops
  have hobeys : q.Obeys op := hq.obeys op
  refine ⟨hq, ?_, fun hbarred => hbarred.refused hobeys, fun hrefused e he q'' hf => ?_,
    fun id hphase => ?_, fun head hhead => ?_⟩
  · rcases hobeys with h | ⟨hdone, hpush | ⟨head, hhead, hyields, e, he, hfollows⟩⟩
    · exact Or.inl h
    · exact Or.inr ⟨hdone, Or.inl hpush⟩
    · exact Or.inr ⟨hdone, Or.inr ⟨head, hhead, fun id => hyields.eq_of_task?, hyields, e,
        ⟨he, hfollows⟩, fun f hf => hf.2.unique hfollows⟩⟩
  · exact hf.barred_of_refused he hrefused
  · rcases hq.retire_cases with ⟨hne, -⟩ | h
    · exact absurd hphase (hne id)
    · exact h
  · rcases hq.retire_cases with ⟨-, h⟩ | ⟨popped, rest, hcons, h⟩
    · simp [h] at hhead
    · rw [h] at hhead
      obtain rfl := Option.some.inj hhead
      rw [hcons]

end Queue

end WalletReplay
