import WalletReplay.Proofs.Scheduler.Refusal
import WalletReplay.Proofs.Scheduler.Report

/-!
# Attempts at tasks

For the attempts at tasks only the phase of the queue counts, the calls that wait to attempt a task,
and what the journal says of dispatches, attempts and failures. A move dispatches the head, begins
an attempt, or is the failure of one; or the head is not under way any more; or nothing of the kind
happens.

An attempt that fails is judged by the policy: the task backs off or stalls. It may fail late, when
its task has completed and another may run. Then nothing is counted, whoever runs.

## What is proved

* `Queue.fail_of_running` — the failed attempt of a task that runs is judged by the policy.
* `Move.trial` — what a move means for the attempts at tasks.
* `Manned.fail` — an attempt that fails counts for nothing if its task has completed.
-/

namespace WalletReplay

/-- What becomes of a task when an attempt at it fails at a time, so many having failed by then. -/
def RetryPolicy.verdict (p : RetryPolicy) (failures now : Nat) : FailureOutcome :=
  if p.isExhausted (min failures failureLimit) then .stalled (min failures failureLimit)
  else .retry (min failures failureLimit) (now + p.backoff)

/-- The phase that a failed attempt leaves its task in, if it counts. -/
def FailureOutcome.phase? (id : TaskId) : FailureOutcome → Option Phase
  | retry failures retryAt => some (.backoff id failures retryAt)
  | stalled failures => some (.stalled id failures)
  | ignored => none

theorem RetryPolicy.isExhausted_zero (p : RetryPolicy) : p.isExhausted 0 = false := by
  unfold isExhausted
  split <;> simp

/-- The counter is at its limit, or one short of the failures that are judged next. -/
theorem RetryPolicy.verdict_min (p : RetryPolicy) (failures now : Nat) :
    p.verdict (min failures failureLimit + 1) now = p.verdict (failures + 1) now := by
  have hmin : min (min failures failureLimit + 1) failureLimit = min (failures + 1) failureLimit := by
    omega
  simp only [verdict, hmin]

/-- The failed attempt of a task that runs is judged by the policy. -/
theorem Queue.fail_of_running {q : Queue} {id : TaskId} {n : Nat} (h : q.phase = .running id n)
    (p : RetryPolicy) (now : Nat) : ∃ phase, (p.verdict (n + 1) now).phase? id = some phase ∧
      q.fail id p now = ({ q with phase }, p.verdict (n + 1) now) := by
  rcases q.fail_cases id p now with ⟨hne, -⟩ | ⟨failures, count, hphase, rfl, hfail⟩
  · exact absurd h (hne n)
  · rw [h] at hphase
    obtain ⟨-, rfl⟩ := Phase.running.inj hphase
    rcases hfail with ⟨hexhausted, hfail⟩ | ⟨hexhausted, hfail⟩
    · refine ⟨.stalled id (min (n + 1) failureLimit), ?_, ?_⟩
      · simp [RetryPolicy.verdict, hexhausted, FailureOutcome.phase?]
      · simp [RetryPolicy.verdict, hexhausted, hfail]
    · refine ⟨.backoff id (min (n + 1) failureLimit) (now + p.backoff), ?_, ?_⟩
      · simp [RetryPolicy.verdict, hexhausted, FailureOutcome.phase?]
      · simp [RetryPolicy.verdict, hexhausted, hfail]

/-! ### Attempts in the journal -/

namespace Occurrence

/-- Whether the task is dispatched. -/
def dispatches (id : TaskId) : Occurrence → Bool
  | dispatched task _ => task = id
  | _ => false

/-- Whether an attempt at the task begins. -/
def attempts (id : TaskId) : Occurrence → Bool
  | attempted task => task = id
  | _ => false

/-- Whether an attempt at the task fails. -/
def fails (id : TaskId) : Occurrence → Bool
  | failed task _ _ => task = id
  | _ => false

/-- Whether some task is dispatched or attempted, or an attempt fails. -/
def isTrial : Occurrence → Bool
  | dispatched _ _ | attempted _ | failed _ _ _ => true
  | accepted _ | completed _ | retired _ | acquired _ | answered _ _ _ | heard _ _ => false

section

variable {o : Occurrence} {past news : List Occurrence} {id : TaskId}

theorem dispatches_of_not_isTrial (h : o.isTrial = false) (id : TaskId) :
    o.dispatches id = false := by
  cases o <;> simp_all [isTrial, dispatches]

theorem attempts_of_not_isTrial (h : o.isTrial = false) (id : TaskId) : o.attempts id = false := by
  cases o <;> simp_all [isTrial, attempts]

theorem fails_of_not_isTrial (h : o.isTrial = false) (id : TaskId) : o.fails id = false := by
  cases o <;> simp_all [isTrial, fails]

/-- What is of no kind is not counted. -/
theorem countP_append_of_not {f : Occurrence → Bool} (h : ∀ o ∈ news, f o = false) :
    (past ++ news).countP f = past.countP f := by
  have hzero : news.countP f = 0 := by
    rw [List.countP_eq_zero]
    intro o ho
    simp [h o ho]
  rw [List.countP_append, hzero, Nat.add_zero]

theorem exists_dispatched (h : 0 < past.countP (Occurrence.dispatches id)) :
    ∃ now, .dispatched id now ∈ past := by
  obtain ⟨o, ho, hid⟩ := List.countP_pos_iff.mp h
  cases o <;> simp [dispatches] at hid
  subst hid
  exact ⟨_, ho⟩

theorem exists_failed (h : 0 < past.countP (Occurrence.fails id)) :
    ∃ now o, .failed id now o ∈ past := by
  obtain ⟨o, ho, hid⟩ := List.countP_pos_iff.mp h
  cases o <;> simp [fails] at hid
  subst hid
  exact ⟨_, _, ho⟩

theorem mem_of_not_isTrial (hnews : ∀ o ∈ news, o.isTrial = false) (ho : o.isTrial = true) :
    o ∈ past ++ news ↔ o ∈ past := by
  rw [List.mem_append]
  constructor
  · rintro (h | h)
    · exact h
    · rw [hnews o h] at ho
      exact absurd ho Bool.false_ne_true
  · exact Or.inl

end

end Occurrence

namespace Scheduler

variable {s s' : Scheduler} {k : Caller} {p : Terms} {u : Task} {id : TaskId}

/-! ### What moves mean for attempts -/

/-- A caller waits for the chain to attempt a task. -/
def Waits (s : Scheduler) (k : Caller) (u : Task) : Prop :=
  s.calls.get? k = some (.waiting (.replay u))

theorem waits_of_erase (hcalls : s'.calls = s.calls.erase k) {l : Caller} (h : s'.Waits l u) :
    s.Waits l u := by
  rw [Waits, hcalls, Table.get?_erase] at h
  split_ifs at h
  exact h

theorem waits_of_set {c : Call} (hc : ∀ v, c ≠ .waiting (.replay v))
    (hcalls : s'.calls = s.calls.set k c) {l : Caller} (h : s'.Waits l u) : s.Waits l u := by
  rw [Waits, hcalls, Table.get?_set] at h
  split_ifs at h
  · exact absurd (Option.some.inj h) (hc u)
  · exact h

/-- What a move means for the attempts at tasks. -/
inductive Trial (s s' : Scheduler) : Prop where
  /-- No attempt gets any further. -/
  | aside (news : List Occurrence) (hnews : ∀ o ∈ news, o.isTrial = false)
      (hjournal : s'.journal = s.journal ++ news) (hwaits : ∀ l v, s'.Waits l v → s.Waits l v)
      (hphase : s'.queue.phase = s.queue.phase)
  /-- The head is not under way any more: it has completed, or its dispatch is taken back because of
  a shutdown. -/
  | lapse (news : List Occurrence) (hnews : ∀ o ∈ news, o.isTrial = false)
      (hjournal : s'.journal = s.journal ++ news) (hwaits : ∀ l v, s'.Waits l v → s.Waits l v)
      (hphase : s'.queue.phase.isUnderWay = false)
      (hlapsed : ∀ id, s.queue.phase.task? = some id → .completed id ∈ s'.journal ∨
        s.isShutDown = true ∧ ∃ n, s.queue.phase = .running id n)
  /-- The head is dispatched, for the first time or again. -/
  | dispatch {k : Caller} {head : Task} {n : Nat} (hopen : s.isShutDown = false)
      (hjournal : s'.journal = s.journal ++ [.dispatched head.id s.clock])
      (hcalls : s'.calls = s.calls.set k (.waiting (.replay head))) (hhead : s.queue.head? = some head)
      (hready : s.queue.phase = .idle ∧ n = 0 ∨
        ∃ retryAt, s.queue.phase = .backoff head.id n retryAt ∧ retryAt ≤ s.clock)
      (hphase : s'.queue.phase = .running head.id n)
  /-- An attempt begins. -/
  | attempt {k : Caller} {task : Task} {w : Work} (hcall : s.Holds k (.replay task))
      (hjournal : s'.journal = s.journal ++ [.acquired k, .attempted task.id])
      (hcalls : s'.calls = s.calls.set k (.working w)) (hphase : s'.queue.phase = s.queue.phase)
  /-- An attempt fails. -/
  | fail {k : Caller} {call : ClientCall} {task : Task} (htask : task ∈ s.lineTasks)
      (hjournal : s'.journal = s.journal ++ [.answered k call false,
        .failed task.id s.clock (s.queue.fail task.id s.retry s.clock).2])
      (hwaits : ∀ l v, s'.Waits l v → s.Waits l v)
      (hphase : s'.queue.phase = (s.queue.fail task.id s.retry s.clock).1.phase)

/-- A move that leaves the journal and the phase alone. -/
theorem trial_of_silent (hjournal : s'.journal = s.journal)
    (hwaits : ∀ l v, s'.Waits l v → s.Waits l v) (hphase : s'.queue.phase = s.queue.phase) :
    Trial s s' :=
  .aside [] (List.forall_mem_nil _) (by rw [hjournal, List.append_nil]) hwaits hphase

/-- What a step means for the attempts at tasks. -/
theorem Step.trial (hs : s.Ordered) (h : Step k s s') : Trial s s' := by
  cases h with
  | rest hcall => exact trial_of_silent rfl (fun l v => waits_of_erase rfl) rfl
  | retire hcall hopen =>
    rcases hs.headMatches.retire_cases with ⟨-, h⟩ | ⟨head, rest, hcons, h⟩
    · rw [h]
      exact trial_of_silent (by simp [record, retirement]) (fun l v hv => hv) rfl
    · rw [h]
      refine .lapse [.retired head.id] (by simp [Occurrence.isTrial]) rfl
        (fun l v hv => hv) rfl ?_
      intro id hid
      rw [hcons] at hid
      obtain rfl := Option.some.inj hid
      exact Or.inl (List.mem_append_left _ (hs.completed head.id (by rw [hcons])))
  | @dispatch task hcall hopen h =>
    rcases s.queue.dispatch_cases s.clock with hd | ⟨head, n, hhead, hd, hready⟩
    · rw [hd] at h
      simp at h
    · rw [hd] at h
      obtain rfl := Option.some.inj h
      rw [hd]
      exact .dispatch hopen rfl rfl hhead hready rfl
  | askRegular => exact trial_of_silent rfl (fun l v => waits_of_set (by simp) rfl) rfl
  | askShutdown =>
    rw [callShutdown_eq]
    exact trial_of_silent rfl (fun l v => waits_of_set (by simp) rfl) rfl
  | @refuse task hcall hclosed =>
    have hwaits : ∀ l v, (depart (record { s with queue := (s.queue.abandon task.id).1 }
        [.acquired k]) k).Waits l v → s.Waits l v := fun l v => waits_of_erase (calls_depart _ k)
    rw [depart_eq] at hwaits ⊢
    rcases s.queue.abandon_cases task.id with ⟨-, h⟩ | ⟨n, hphase, h⟩
    · exact .aside [.acquired k] (by simp [Occurrence.isTrial]) rfl hwaits
        (congrArg (fun r => r.1.phase) h)
    · refine .lapse [.acquired k] (by simp [Occurrence.isTrial]) rfl hwaits ?_ ?_
      · exact congrArg (fun r => r.1.phase.isUnderWay) h
      · intro id hid
        rw [hphase] at hid
        obtain rfl := Option.some.inj hid
        exact Or.inr ⟨hclosed, n, hphase⟩
  | attempt hcall hopen => exact .attempt hcall rfl rfl rfl
  | declineRegular | declineShutdown =>
    have hwaits : ∀ l v, (depart (s.record [.acquired k]) k).Waits l v → s.Waits l v :=
      fun l v => waits_of_erase (calls_depart _ k)
    rw [depart_eq] at hwaits ⊢
    exact .aside [.acquired k] (by simp [Occurrence.isTrial]) rfl hwaits rfl
  | beginRegular | beginShutdown =>
    exact .aside [.acquired k] (by simp [Occurrence.isTrial]) rfl
      (fun l v => waits_of_set (by simp) rfl) rfl
  | @succeed w hcall =>
    cases hnext : (w.succeed s.slot (s.hear k w true).client).next with
    | some next =>
      exact .aside [.answered k w.call true] (by simp [Occurrence.isTrial]) rfl
        (fun l v => waits_of_set (by simp) rfl) rfl
    | none =>
      rw [goOn, depart_eq]
      exact .aside [.answered k w.call true] (by simp [Occurrence.isTrial]) rfl
        (fun l v => waits_of_erase rfl) rfl
  | @fail w hcall =>
    rw [depart_eq]
    cases htask : w.task? with
    | none =>
      exact .aside [.answered k w.call false] (by simp [Occurrence.isTrial]) rfl
        (fun l v => waits_of_erase rfl) rfl
    | some task =>
      refine .fail ?_ (List.append_assoc _ _ _) (fun l v => waits_of_erase rfl) rfl
      refine List.mem_filterMap.mpr ⟨k, List.mem_of_head? (hs.inLine.head_of_working hcall), ?_⟩
      rw [taskOf?_of_working hcall, htask]

theorem isTrial_of_told {told : List (String × Bool)} :
    ∀ o ∈ told.map fun h => Occurrence.heard h.1 h.2, o.isTrial = false := by
  intro o ho
  obtain ⟨h, -, rfl⟩ := List.mem_map.mp ho
  rfl

/-- **What a move means for the attempts at tasks.** -/
theorem Move.trial (hs : s.Ordered) (h : Move p s s') : Trial s s' := by
  cases h with
  | step h => exact h.trial hs
  | create kind h => exact trial_of_silent rfl (fun l v => waits_of_set (by simp) rfl) rfl
  | discard h | drop _ h =>
    rw [cancel_of_some h]
    exact trial_of_silent rfl (fun l v => waits_of_erase rfl) rfl
  | enroll hp haccepts =>
    obtain ⟨told, hjournal⟩ := journal_enroll s _
    refine .aside _ ?_ hjournal ?_ (by rw [queue_enroll]; rfl)
    · rw [List.forall_mem_cons]
      exact ⟨rfl, isTrial_of_told⟩
    · rw [enroll_eq]
      exact fun l v hv => hv
  | @complete head hhead haccepts =>
    obtain ⟨told, hjournal⟩ :=
      journal_complete { s with queue := { s.queue with phase := .completing head.id } } head
    refine .lapse _ ?_ hjournal ?_ (by rw [queue_complete rfl]; rfl) ?_
    · rw [List.forall_mem_cons]
      exact ⟨rfl, isTrial_of_told⟩
    · rw [complete_eq]
      exact fun l v hv => hv
    · intro id hid
      obtain ⟨head', hhead', rfl⟩ := hs.headMatches id hid
      obtain rfl := Option.some.inj (hhead.symm.trans hhead')
      exact Or.inl (by simp [hjournal])
  | own hp | listen | progress | endDownload h | inject | setHeight | wait | drivers =>
    exact trial_of_silent rfl (fun l v hv => hv) rfl

theorem Move.retry_eq (h : Move p s s') : s'.retry = s.retry := by
  cases h with
  | step h => exact h.untouched.retry
  | discard h | drop _ h => rw [cancel_of_some h]
  | enroll => rw [enroll_eq]
  | complete => rw [complete_eq]
  | create | own | listen | progress | endDownload | inject | setHeight | wait | drivers => rfl

theorem Move.clock_le (h : Move p s s') : s.clock ≤ s'.clock := by
  cases h with
  | step h => exact Nat.le_of_eq h.untouched.clock.symm
  | discard h | drop _ h => rw [cancel_of_some h]
  | enroll => rw [enroll_eq]
  | complete => rw [complete_eq]
  | wait ms => exact Nat.le_add_right _ _
  | create | own | listen | progress | endDownload | inject | setHeight | drivers => exact Nat.le_refl _

/-- A task that a phase is about, and that is not retiring, has not completed. -/
theorem Followed.incomplete_of_phase (hs : s.Followed) (htask : s.queue.phase.task? = some id)
    (hne : ∀ u, s.queue.phase ≠ .retiring u) : .completed id ∉ s.journal := by
  obtain ⟨head, hhead, rfl⟩ := hs.headMatches id htask
  apply hs.incomplete head
  rw [Queue.claiming_of_ne hne]
  exact List.mem_of_head? hhead

/-- An attempt that fails counts for nothing if its task has completed. Otherwise its task runs. -/
theorem Manned.fail (hs : s.Manned) (hu : u ∈ s.lineTasks) :
    .completed u.id ∈ s.journal ∧ (∀ n, s.queue.phase ≠ .running u.id n) ∧
        s.queue.fail u.id s.retry s.clock = (s.queue, .ignored) ∨
      .completed u.id ∉ s.journal ∧ ∃ n, s.queue.phase = .running u.id n := by
  by_cases hcompleted : .completed u.id ∈ s.journal
  · have hne : ∀ n, s.queue.phase ≠ .running u.id n := by
      intro n hrun
      exact hs.incomplete_of_phase (by rw [hrun]; rfl) (by simp [hrun]) hcompleted
    rcases s.queue.fail_cases u.id s.retry s.clock with ⟨-, h⟩ | ⟨n, count, hphase, -⟩
    · exact Or.inl ⟨hcompleted, hne, h⟩
    · exact absurd hphase (hne n)
  · exact Or.inr ⟨hcompleted, (hs.running u hu).resolve_left hcompleted⟩

end Scheduler

end WalletReplay
